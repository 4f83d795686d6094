import KernelConfig.Script.Token

/-!
From bytes to tokens. The list of tokens ends where the text does or where it stops making sense.
-/

set_option autoImplicit false

namespace KernelConfig.Script

structure Lexed where
  lexemes : List Lexeme
  fault : Option SourceFault
  deriving DecidableEq, Repr

def isNewline (b : UInt8) : Bool := b == 10 || b == 13

/-- Drops the second half of a two-byte line end. -/
def afterNewline (b : UInt8) : Bytes → Bytes
  | c :: rest => if isNewline c && c != b then rest else c :: rest
  | [] => []

/-- The bytes of a code point below two to the 31st, in the extended scheme of up to six bytes. -/
def extendedUtf8 (n : Nat) : Bytes :=
  let tail (count : Nat) : Bytes :=
    (List.range count).reverse.map fun i => (0x80 + n / 64 ^ i % 64).toUInt8
  if n < 0x80 then [n.toUInt8]
  else if n < 0x800 then (0xC0 + n / 64).toUInt8 :: tail 1
  else if n < 0x10000 then (0xE0 + n / 64 ^ 2).toUInt8 :: tail 2
  else if n < 0x200000 then (0xF0 + n / 64 ^ 3).toUInt8 :: tail 3
  else if n < 0x4000000 then (0xF8 + n / 64 ^ 4).toUInt8 :: tail 4
  else (0xFC + n / 64 ^ 5).toUInt8 :: tail 5

/-- A message about a piece of text that was read so far, last byte first, and the byte after it. -/
def nearText (line : Nat) (message : String) (acc : Bytes) (next : Bytes) : SourceFault :=
  ⟨line, bytes message, bytes "'" ++ acc.reverse ++ next.take 1 ++ bytes "'"⟩

def nearEnd (line : Nat) (message : String) : SourceFault := ⟨line, bytes message, bytes "<eof>"⟩

/-- Counts the equals signs of a long bracket: their number and the rest. -/
def countEquals : Bytes → Nat × Bytes
  | 61 :: rest => let (n, r) := countEquals rest; (n + 1, r)
  | s => (0, s)

/-- The level of the long bracket that opens after a square bracket, and what follows it. -/
def longOpening (s : Bytes) : Option (Nat × Bytes) :=
  match countEquals s with
  | (level, 91 :: rest) => some (level, rest)
  | _ => none

/-- Whether a long bracket of the level closes after a square bracket. -/
def longClosing (level : Nat) (s : Bytes) : Option Bytes :=
  match countEquals s with
  | (n, 93 :: rest) => if n = level then some rest else none
  | _ => none

/-- The body of a long bracket, last byte first, the line on which it ends and what follows. -/
def longBody (level : Nat) : (fuel line : Nat) → Bytes → Bytes → Option (Bytes × Nat × Bytes)
  | 0, _, _, _ => none
  | _, _, _, [] => none
  | fuel + 1, line, acc, b :: rest =>
    if b == 93 then
      match longClosing level rest with
      | some after => some (acc, line, after)
      | none => longBody level fuel line (b :: acc) rest
    else if isNewline b then longBody level fuel (line + 1) (10 :: acc) (afterNewline b rest)
    else longBody level fuel line (b :: acc) rest

/-- A long bracket with its first line end dropped. -/
def longBracket (level line : Nat) (s : Bytes) : Option (Bytes × Nat × Bytes) :=
  match s with
  | b :: rest =>
    if isNewline b then longBody level (s.length + 1) (line + 1) [] (afterNewline b rest)
    else longBody level (s.length + 1) line [] s
  | [] => none

def simpleEscape? (b : UInt8) : Option UInt8 :=
  match b with
  | 97 => some 7
  | 98 => some 8
  | 102 => some 12
  | 110 => some 10
  | 114 => some 13
  | 116 => some 9
  | 118 => some 11
  | 92 => some 92
  | 34 => some 34
  | 39 => some 39
  | _ => none

/-- The code point of a braced escape: the digits read so far and those to come. -/
def bracedEscape (line : Nat) (acc : Bytes) : (fuel value : Nat) → (digits : Bytes) → Bytes →
    Except SourceFault (Nat × Bytes)
  | 0, _, digits, s => .error (nearText line "missing '\x7d'" (digits ++ acc) s)
  | fuel + 1, value, digits, s =>
    match s with
    | [] => .error (nearText line "missing '\x7d'" (digits ++ acc) [])
    | b :: rest =>
      match hexDigit? b with
      | some d =>
        if value ≤ 0x7FFFFFF then bracedEscape line acc fuel (value * 16 + d) (b :: digits) rest
        else .error (nearText line "UTF-8 value too large" (digits ++ acc) s)
      | none =>
        if b == 125 then .ok (value, rest)
        else .error (nearText line "missing '\x7d'" (digits ++ acc) s)

/-- An escape after its backslash: the bytes it stands for and what follows. -/
def escapeBytes (line : Nat) (acc : Bytes) (b : UInt8) (rest : Bytes) :
    Except SourceFault (Bytes × Bytes) :=
  let acc := 92 :: acc
  match simpleEscape? b with
  | some c => .ok ([c], rest)
  | none =>
    if b == 120 then
      let message := "hexadecimal digit expected"
      match rest with
      | [] => .error (nearText line message (b :: acc) [])
      | c :: more => match hexDigit? c with
        | none => .error (nearText line message (b :: acc) rest)
        | some high => match more with
          | [] => .error (nearText line message (c :: b :: acc) [])
          | d :: after => match hexDigit? d with
            | none => .error (nearText line message (c :: b :: acc) more)
            | some low => .ok ([(high * 16 + low).toUInt8], after)
    else if b == 117 then
      match rest with
      | 123 :: more => match more with
        | d :: after => match hexDigit? d with
          | some v => (bracedEscape line (123 :: b :: acc) (after.length + 1) v [d] after).map
              fun (n, r) => (extendedUtf8 n, r)
          | none => .error (nearText line "hexadecimal digit expected" (123 :: b :: acc) more)
        | [] => .error (nearText line "hexadecimal digit expected" (123 :: b :: acc) [])
      | _ => .error (nearText line "missing '\x7b'" (b :: acc) rest)
    else if isDigit b then
      let digits := (b :: rest).take 3 |>.takeWhile isDigit
      let after := (b :: rest).drop digits.length
      let value := decimalValue digits
      if value ≤ 255 then .ok ([value.toUInt8], after)
      else .error (nearText line "decimal escape too large" (digits.reverse ++ acc) after)
    else .error (nearText line "invalid escape sequence" acc (b :: rest))

/-- Skips blanks and line ends: what follows and the line that it is on. -/
def skipBlanks : (fuel line : Nat) → Bytes → Nat × Bytes
  | 0, line, s => (line, s)
  | _, line, [] => (line, [])
  | fuel + 1, line, b :: rest =>
    if isNewline b then skipBlanks fuel (line + 1) (afterNewline b rest)
    else if isSpace b then skipBlanks fuel line rest
    else (line, b :: rest)

/-- The body of a quoted string with the opening quote, last byte first, the line on which it ends
and what follows the closing quote. -/
def quotedBody (quote : UInt8) : (fuel line : Nat) → Bytes → Bytes →
    Except SourceFault (Bytes × Nat × Bytes)
  | 0, line, _, _ => .error (nearEnd line "unfinished string")
  | _, line, _, [] => .error (nearEnd line "unfinished string")
  | fuel + 1, line, acc, b :: rest =>
    if b == quote then .ok (acc, line, rest)
    else if isNewline b then .error (nearText line "unfinished string" acc [])
    else if b == 92 then
      match rest with
      | [] => .error (nearEnd line "unfinished string")
      | c :: more =>
        if isNewline c then quotedBody quote fuel (line + 1) (10 :: acc) (afterNewline c more)
        else if c == 122 then
          let (line, after) := skipBlanks (more.length + 1) line more
          quotedBody quote fuel line acc after
        else match escapeBytes line acc c more with
          | .error e => .error e
          | .ok (bs, after) => quotedBody quote fuel line (bs.reverse ++ acc) after
    else quotedBody quote fuel line (b :: acc) rest

/-- The bytes that belong to a numeral: digits, points and exponents with their signs. -/
def numeralBytes (lower upper : UInt8) : (fuel : Nat) → Bytes → Bytes
  | 0, _ => []
  | _, [] => []
  | fuel + 1, b :: rest =>
    if b == lower || b == upper then
      match rest with
      | s :: more =>
        if s == 45 || s == 43 then b :: s :: numeralBytes lower upper fuel more
        else b :: numeralBytes lower upper fuel rest
      | [] => [b]
    else if isHexDigit b || b == 46 then b :: numeralBytes lower upper fuel rest
    else []

/-- The text of the numeral that begins here; a letter that touches it belongs to it and spoils it. -/
def numeralText (s : Bytes) : Bytes :=
  let hex := match s with
    | 48 :: x :: _ => x == 120 || x == 88
    | _ => false
  let text :=
    if hex then s.take 2 ++ numeralBytes 112 80 s.length (s.drop 2)
    else s.take 1 ++ numeralBytes 101 69 s.length (s.drop 1)
  match s.drop text.length with
  | b :: _ => if isNameStart b then text ++ [b] else text
  | [] => text

/-- An operator or a punctuation mark of several bytes, longest first. -/
def markAt (s : Bytes) : Option (Mark × Nat) :=
  match s with
  | 46 :: 46 :: 46 :: _ => some (.dots, 3)
  | 46 :: 46 :: _ => some (.concat, 2)
  | 47 :: 47 :: _ => some (.idiv, 2)
  | 61 :: 61 :: _ => some (.eq, 2)
  | 62 :: 61 :: _ => some (.ge, 2)
  | 60 :: 61 :: _ => some (.le, 2)
  | 126 :: 61 :: _ => some (.ne, 2)
  | 60 :: 60 :: _ => some (.shl, 2)
  | 62 :: 62 :: _ => some (.shr, 2)
  | 58 :: 58 :: _ => some (.dbcolon, 2)
  | _ => none

/-- What the beginning of a text is. -/
inductive Piece where
  | blank (line : Nat) (rest : Bytes)
  | lexeme (l : Lexeme) (rest : Bytes)
  | fault (f : SourceFault)

def unfinishedLong (what : String) (line endLine : Nat) : SourceFault :=
  nearEnd endLine
    ("unfinished long " ++ what ++ " (starting at line " ++ Text.decimal line ++ ")")

/-- The line of the last byte of a text that starts on `line`. -/
def lastLine : (fuel line : Nat) → Bytes → Nat
  | 0, line, _ => line
  | _, line, [] => line
  | fuel + 1, line, b :: rest =>
    if isNewline b then lastLine fuel (line + 1) (afterNewline b rest) else lastLine fuel line rest

def longPiece (level line : Nat) (rest : Bytes) : Piece :=
  match longBracket level line rest with
  | none => .fault (unfinishedLong "string" line (lastLine (rest.length + 1) line rest))
  | some (acc, endLine, after) =>
    let body := acc.reverse
    let equals := List.replicate level 61
    let text := 91 :: equals ++ 91 :: body ++ 93 :: equals ++ [93]
    .lexeme ⟨.string body, endLine, text⟩ after

def commentPiece (line : Nat) (rest : Bytes) : Piece :=
  let toLineEnd := Piece.blank line (rest.dropWhile fun b => !isNewline b)
  match rest with
  | 91 :: more => match longOpening more with
    | none => toLineEnd
    | some (level, after) => match longBracket level line after with
      | none => .fault (unfinishedLong "comment" line (lastLine (after.length + 1) line after))
      | some (_, endLine, after) => .blank endLine after
  | _ => toLineEnd

def numberPiece (line : Nat) (s : Bytes) : Piece :=
  let text := numeralText s
  let rest := s.drop text.length
  match number? text with
  | some (.int i) => .lexeme ⟨.int i, line, text⟩ rest
  | some (.float x) => .lexeme ⟨.float x, line, text⟩ rest
  | _ => .fault (nearText line "malformed number" text.reverse [])

def wordPiece (line : Nat) (s : Bytes) : Piece :=
  let word := s.takeWhile isNamePart
  let rest := s.drop word.length
  match Keyword.ofName? word with
  | some k => .lexeme ⟨.keyword k, line, word⟩ rest
  | none => .lexeme ⟨.name word, line, word⟩ rest

def piece (line : Nat) (b : UInt8) (rest : Bytes) : Piece :=
  if isNewline b then .blank (line + 1) (afterNewline b rest)
  else if isSpace b then .blank line rest
  else if isNameStart b then wordPiece line (b :: rest)
  else if isDigit b then numberPiece line (b :: rest)
  else if b == 46 && (rest.head?.map isDigit).getD false then numberPiece line (b :: rest)
  else if b == 45 && rest.head? == some 45 then commentPiece line (rest.drop 1)
  else if b == 34 || b == 39 then
    match quotedBody b (rest.length + 1) line [b] rest with
    | .error f => .fault f
    | .ok (acc, endLine, after) =>
      .lexeme ⟨.string (acc.reverse.drop 1), endLine, acc.reverse ++ [b]⟩ after
  else if b == 91 then
    match longOpening rest with
    | some (level, after) => longPiece level line after
    | none => match countEquals rest with
      | (0, _) => .lexeme ⟨.single b, line, [b]⟩ rest
      | (n, _) => .fault (nearText line "invalid long string delimiter" (List.replicate n 61 ++ [91]) [])
  else match markAt (b :: rest) with
    | some (m, n) => .lexeme ⟨.mark m, line, []⟩ (rest.drop (n - 1))
    | none => .lexeme ⟨.single b, line, [b]⟩ rest

def lexFrom : (fuel line : Nat) → Bytes → Lexed
  | 0, _, _ => ⟨[], none⟩
  | _, line, [] => ⟨[⟨.eof, line, []⟩], none⟩
  | fuel + 1, line, b :: rest =>
    match piece line b rest with
    | .blank line rest => lexFrom fuel line rest
    | .fault f => ⟨[], some f⟩
    | .lexeme l rest =>
      let d := lexFrom fuel l.line rest
      ⟨l :: d.lexemes, d.fault⟩

def lex (s : Bytes) : Lexed := lexFrom (s.length + 1) 1 s

end KernelConfig.Script
