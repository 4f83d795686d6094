import KernelConfig.Text.Digits
import KernelConfig.Toml.Value

/-!
Quoted strings: basic ones with escapes and literal ones without, each on one line between single
marks or on several lines between triple marks.
-/

set_option autoImplicit false

namespace KernelConfig.Toml

/-- The character that so many hexadecimal digits name. -/
def numberedChar (count : Nat) (s : List Char) : Except Defect (Taken Char) :=
  match (s.take count).mapM (Text.digitOf? 16) with
  | none => .error .malformed
  | some ds =>
    let n := Text.digitsValue 16 ds
    if ds.length = count && n.isValidChar then .ok (Char.ofNat n, s.drop count)
    else .error .malformed

/-- The character that an escape names; the text begins after the backslash. -/
def escapedChar : List Char → Except Defect (Taken Char)
  | 'b' :: s => .ok ('\x08', s)
  | 't' :: s => .ok ('\t', s)
  | 'n' :: s => .ok ('\n', s)
  | 'f' :: s => .ok ('\x0c', s)
  | 'r' :: s => .ok ('\r', s)
  | '"' :: s => .ok ('"', s)
  | '\\' :: s => .ok ('\\', s)
  | 'u' :: s => numberedChar 4 s
  | 'U' :: s => numberedChar 8 s
  | _ => .error .malformed

/-- The rest after a line break that only spacing precedes, and after all spacing and breaks behind it. -/
def afterLineEnd (s : List Char) : Option (List Char) :=
  match skipSpacing s with
  | '\n' :: rest => some (rest.dropWhile fun c => isSpacing c || c == '\n')
  | _ => none

/-- Up to two marks right behind a closing triple belong to the string. -/
def withExtraMarks (mark : Char) (text rest : List Char) : Except Defect (Taken String) :=
  let extra := (rest.take 2).takeWhile (· == mark)
  .ok (String.ofList (text.reverse ++ extra), rest.drop extra.length)

def skipFirstBreak : List Char → List Char
  | '\n' :: s => s
  | s => s

/-- The rest of a basic string; `text` holds its beginning, last character first. -/
def basicLine (text : List Char) : (fuel : Nat) → List Char → Except Defect (Taken String)
  | fuel + 1, c :: s =>
    if c = '"' then .ok (String.ofList text.reverse, s)
    else if c = '\\' then match escapedChar s with
      | .ok (e, rest) => basicLine (e :: text) fuel rest
      | .error d => .error d
    else if isBarred c then .error .malformed
    else basicLine (c :: text) fuel s
  | _, _ => .error .malformed

def basicLines (text : List Char) : (fuel : Nat) → List Char → Except Defect (Taken String)
  | _, '"' :: '"' :: '"' :: s => withExtraMarks '"' text s
  | fuel + 1, c :: s =>
    if c = '\\' then match afterLineEnd s with
      | some rest => basicLines text fuel rest
      | none => match escapedChar s with
        | .ok (e, rest) => basicLines (e :: text) fuel rest
        | .error d => .error d
    else if isBarred c && c != '\n' then .error .malformed
    else basicLines (c :: text) fuel s
  | _, _ => .error .malformed

def literalLine (text : List Char) : List Char → Except Defect (Taken String)
  | '\'' :: s => .ok (String.ofList text.reverse, s)
  | c :: s => if isBarred c then .error .malformed else literalLine (c :: text) s
  | [] => .error .malformed

def literalLines (text : List Char) : List Char → Except Defect (Taken String)
  | '\'' :: '\'' :: '\'' :: s => withExtraMarks '\'' text s
  | c :: s =>
    if isBarred c && c != '\n' then .error .malformed else literalLines (c :: text) s
  | [] => .error .malformed

/-- A string of one line. -/
def lineString : List Char → Except Defect (Taken String)
  | '"' :: s => basicLine [] s.length s
  | '\'' :: s => literalLine [] s
  | _ => .error .malformed

/-- A string of one or several lines. -/
def anyString : List Char → Except Defect (Taken String)
  | '"' :: '"' :: '"' :: s => basicLines [] s.length (skipFirstBreak s)
  | '\'' :: '\'' :: '\'' :: s => literalLines [] (skipFirstBreak s)
  | s => lineString s

end KernelConfig.Toml
