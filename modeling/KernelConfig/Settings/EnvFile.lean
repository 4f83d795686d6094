import KernelConfig.Text.Blank

/-!
Environment files: a variable a line, with quotes, escapes and comments. A value may refer to
variables before it. A line that cannot be read is passed over.
-/

set_option autoImplicit false

namespace KernelConfig.EnvFile

/-- A variable, with its value if there is an equals sign behind the name. -/
abbrev Binding := String × Option String

/-- The text where reading got stuck. -/
abbrev Stuck := List Char

/-- What has been read and the rest of the text. -/
abbrev Taken (α : Type) := α × List Char

def isInnerBlank (c : Char) : Bool := Text.isBlank c && c ≠ '\n' && c ≠ '\r'

def skipInner (s : List Char) : List Char := s.dropWhile isInnerBlank

def isLineEnd (c : Char) : Bool := c = '\n' || c = '\r'

/-- The text before the first mark without a backslash before it, and the rest behind that mark. -/
def upToOpenMark (mark : Char) (text : List Char) : List Char → Option (List Char × List Char)
  | [] => none
  | [c] => if c = mark then some (text.reverse, []) else none
  | c :: d :: rest =>
    if c = mark then some (text.reverse, d :: rest)
    else if c = '\\' && d = mark then upToOpenMark mark (d :: c :: text) rest
    else upToOpenMark mark (c :: text) (d :: rest)

/-- The text before the last mark, and the rest behind it. -/
def upToLastMark (mark : Char) (s : List Char) : Option (List Char × List Char) :=
  match s.reverse.dropWhile (· ≠ mark) with
  | [] => none
  | _ :: before => some (before.reverse, s.drop (before.length + 1))

/-- Where every mark has a backslash before it, the last one ends the text. -/
def quotedText? (mark : Char) (s : List Char) : Option (List Char × List Char) :=
  match upToOpenMark mark [] s with
  | some r => some r
  | none => upToLastMark mark s

def literalEscape (c : Char) : Option Char := if c = '\\' || c = '\'' then some c else none

def escapeMeaning (c : Char) : Option Char :=
  [('\\', '\\'), ('\'', '\''), ('"', '"'), ('a', '\x07'), ('b', '\x08'), ('f', '\x0c'), ('n', '\n'),
    ('r', '\r'), ('t', '\t'), ('v', '\x0b')].lookup c

/-- A backslash that begins no escape stays. -/
def decodeEscapes (meaning : Char → Option Char) : List Char → List Char
  | [] => []
  | [c] => [c]
  | c :: d :: rest =>
    if c = '\\' then match meaning d with
      | some e => e :: decodeEscapes meaning rest
      | none => c :: decodeEscapes meaning (d :: rest)
    else c :: decodeEscapes meaning (d :: rest)

/-- The text before a number sign that follows a blank. -/
def beforeComment : List Char → List Char
  | [] => []
  | [c] => [c]
  | c :: d :: rest =>
    if Text.isBlank c && d = '#' then [] else c :: beforeComment (d :: rest)

def value (s : List Char) : Except Stuck (Taken String) :=
  match s with
  | '\'' :: rest => match quotedText? '\'' rest with
    | some (text, rest) => .ok (String.ofList (decodeEscapes literalEscape text), rest)
    | none => .error s
  | '"' :: rest => match quotedText? '"' rest with
    | some (text, rest) => .ok (String.ofList (decodeEscapes escapeMeaning text), rest)
    | none => .error s
  | _ =>
    let line := s.takeWhile fun c => !isLineEnd c
    .ok (String.ofList (Text.stripEnd (beforeComment line)), s.drop line.length)

def isKeyChar (c : Char) : Bool := c ≠ '=' && c ≠ '#' && !Text.isBlank c

/-- The name of a variable; a comment has none. -/
def key (s : List Char) : Except Stuck (Taken (Option String)) :=
  match s with
  | '#' :: _ => .ok (none, s)
  | '\'' :: rest =>
    let name := rest.takeWhile (· ≠ '\'')
    match rest.drop name.length with
    | _ :: after => if name.isEmpty then .error s else .ok (some (String.ofList name), after)
    | [] => .error s
  | _ => match s.takeWhile isKeyChar with
    | [] => .error s
    | name => .ok (some (String.ofList name), s.drop name.length)

def skipExport (s : List Char) : List Char :=
  let word := "export".toList
  let rest := s.drop word.length
  if word.isPrefixOf s && (rest.head?.elim false isInnerBlank) then skipInner rest else s

def skipComment (s : List Char) : List Char :=
  match skipInner s with
  | '#' :: rest => rest.dropWhile fun c => !isLineEnd c
  | _ => s

def afterLine (s : List Char) : Except Stuck (List Char) :=
  match skipInner s with
  | [] => .ok []
  | c :: rest => if isLineEnd c then .ok rest else .error s

/-- The variable at the start of a text, if there is one there. -/
def binding (s : List Char) : Except Stuck (Taken (Option Binding)) := do
  let (name, s) ← key (skipExport s)
  let (v, s) ← (match skipInner s with
    | '=' :: rest => (value (skipInner rest)).map fun (v, s) => (some v, s)
    | s => .ok (none, s) : Except Stuck (Taken (Option String)))
  return (name.map fun name => (name, v), ← afterLine (skipComment s))

def bindingsFrom : (fuel : Nat) → List Char → List Binding
  | 0, _ => []
  | fuel + 1, s => match s.dropWhile Text.isBlank with
    | [] => []
    | s => match binding s with
      | .ok (b, rest) => b.toList ++ bindingsFrom fuel rest
      | .error rest =>
        bindingsFrom fuel ((rest.dropWhile fun c => !isLineEnd c).drop 1)

/-- The variables of a file in order. -/
def bindings (s : String) : List Binding := bindingsFrom (s.length + 1) s.toList

/-- A reference up to its closing brace: the name, what stands in for it, and the rest. -/
def reference? (s : List Char) : Option (String × List Char × List Char) :=
  let name := s.takeWhile fun c => c ≠ '\x7d' && c ≠ ':'
  match s.drop name.length with
  | '\x7d' :: rest => some (String.ofList name, [], rest)
  | ':' :: '-' :: rest =>
    let other := rest.takeWhile (· ≠ '\x7d')
    match rest.drop other.length with
    | _ :: rest => some (String.ofList name, other, rest)
    | [] => none
  | _ => none

/-- The text with the values of the variables that it refers to. -/
def expand (variableOf : String → Option (Option String)) : (fuel : Nat) → List Char → List Char
  | 0, s => s
  | fuel + 1, s => match s with
    | [] => []
    | '$' :: '\x7b' :: rest => match reference? rest with
      | some (name, other, rest) =>
        (match variableOf name with
          | none => other
          | some v => (v.getD "").toList) ++ expand variableOf fuel rest
      | none => '$' :: expand variableOf fuel ('\x7b' :: rest)
    | c :: rest => c :: expand variableOf fuel rest

def put (bs : List Binding) (b : Binding) : List Binding :=
  if bs.any (·.1 = b.1) then bs.map fun old => if old.1 = b.1 then b else old else bs ++ [b]

/-- The variables of a file with their references resolved; the file's own come before the others. -/
def read (environment : List (String × String)) (s : String) : List Binding :=
  (bindings s).foldl (fun known b =>
    let variableOf (name : String) : Option (Option String) :=
      match known.lookup name with
      | some v => some v
      | none => (environment.lookup name).map some
    put known (b.1, b.2.map fun v => String.ofList (expand variableOf v.length v.toList))) []

end KernelConfig.EnvFile
