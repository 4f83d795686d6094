import KernelConfig.Toml.Nest
import KernelConfig.Toml.Number
import KernelConfig.Toml.Quoted

/-!
Declaration documents: keys and values under headings of tables and of arrays of tables. A document
is read whole or not at all.
-/

set_option autoImplicit false

namespace KernelConfig.Toml

def isBareKeyChar (c : Char) : Bool :=
  ('a' ≤ c && c ≤ 'z') || ('A' ≤ c && c ≤ 'Z') || ('0' ≤ c && c ≤ '9') || c == '-' || c == '_'

def keyPart (s : List Char) : Except Defect (Taken String) :=
  match s.takeWhile isBareKeyChar with
  | [] => lineString s
  | name => .ok (String.ofList name, s.dropWhile isBareKeyChar)

/-- Names with points between them, and the spacing behind them. -/
def dottedKey : (fuel : Nat) → List Char → Except Defect (Taken (List String))
  | 0, _ => .error .malformed
  | fuel + 1, s => do
    let (name, s) ← keyPart s
    match skipSpacing s with
    | '.' :: s =>
      let (names, s) ← dottedKey fuel (skipSpacing s)
      return (name :: names, s)
    | s => return ([name], s)

/-- The rest after spacing, line breaks and comments. -/
def afterLayout (comment : Bool) : List Char → Except Defect (List Char)
  | [] => .ok []
  | c :: s =>
    if c = '\n' then afterLayout false s
    else if comment then if isBarred c then .error .malformed else afterLayout true s
    else if isSpacing c then afterLayout false s
    else if c = '#' then afterLayout true s
    else .ok (c :: s)

/-- The rest after the end of a line, before which there may be a comment. -/
def afterLine (comment : Bool) : List Char → Except Defect (List Char)
  | [] => .ok []
  | c :: s =>
    if c = '\n' then .ok s
    else if comment then if isBarred c then .error .malformed else afterLine true s
    else if isSpacing c then afterLine false s
    else if c = '#' then afterLine true s
    else .error .malformed

def expect (c : Char) : List Char → Except Defect (List Char)
  | d :: s => if d = c then .ok s else .error .malformed
  | [] => .error .malformed

def accept {α : Type} : Option α → Except Defect α
  | some a => .ok a
  | none => .error .malformed

mutual

def value : (fuel : Nat) → List Char → Except Defect (Taken Value)
  | 0, _ => .error .malformed
  | fuel + 1, s => match s with
    | '[' :: s => do
      let (items, s) ← arrayItems fuel (← afterLayout false s)
      return (.array items, s)
    | '\x7b' :: s => do
      let (nest, s) ← match skipSpacing s with
        | '\x7d' :: s => .ok ([], s)
        | s => inlineFields fuel [] s
      return (.table (Nest.values nest), s)
    | c :: _ =>
      if c = '"' || c = '\'' then (anyString s).map fun (text, s) => (.text text, s) else scalar s
    | [] => .error .malformed

/-- The items of an array up to its end; a comma may follow the last one. -/
def arrayItems : (fuel : Nat) → List Char → Except Defect (Taken (List Value))
  | 0, _ => .error .malformed
  | fuel + 1, s => match s with
    | ']' :: s => .ok ([], s)
    | s => do
      let (v, s) ← value fuel s
      match ← afterLayout false s with
      | ']' :: s => return ([v], s)
      | ',' :: s =>
        let (vs, s) ← arrayItems fuel (← afterLayout false s)
        return (v :: vs, s)
      | _ => .error .malformed

/-- The fields of an inline table up to its end. -/
def inlineFields : (fuel : Nat) → Nest → List Char → Except Defect (Taken Nest)
  | 0, _, _ => .error .malformed
  | fuel + 1, nest, s => do
    let (key, s) ← dottedKey s.length s
    let (v, s) ← value fuel (skipSpacing (← expect '=' s))
    let nest ← accept (nest.assign 0 v key)
    match skipSpacing s with
    | '\x7d' :: s => return (nest, s)
    | ',' :: s => inlineFields fuel nest (skipSpacing s)
    | _ => .error .malformed

end

/-- A document up to some line: its tables, how many headings it has, and the last of them. -/
structure Outline where
  nest : Nest := []
  headings : Nat := 0
  path : List String := []

/-- Reads the statement at the start of a text that is not empty. -/
def statement (o : Outline) (s : List Char) : Except Defect (Taken Outline) := do
  match s with
  | '\n' :: _ | '#' :: _ => return (o, s)
  | '[' :: '[' :: s =>
    let (path, s) ← dottedKey s.length (skipSpacing s)
    let nest ← accept (o.nest.appendTable path)
    return (⟨nest, o.headings + 1, path⟩, ← expect ']' (← expect ']' s))
  | '[' :: s =>
    let (path, s) ← dottedKey s.length (skipSpacing s)
    let nest ← accept (o.nest.openTable path)
    return (⟨nest, o.headings + 1, path⟩, ← expect ']' s)
  | s =>
    let (key, s) ← dottedKey s.length s
    let (v, s) ← value (2 * s.length) (skipSpacing (← expect '=' s))
    let nest ← accept (o.nest.within (Nest.assign o.headings v key) o.path)
    return ({ o with nest }, s)

def statements : (fuel : Nat) → Outline → List Char → Except Defect Nest
  | 0, _, _ => .error .malformed
  | fuel + 1, o, s => match skipSpacing s with
    | [] => .ok o.nest
    | s => do
      let (o, s) ← statement o s
      statements fuel o (← afterLine false s)

/-- Line ends are read as line feeds. -/
def lineFeeds : List Char → List Char
  | [] => []
  | '\r' :: '\n' :: s => '\n' :: lineFeeds s
  | c :: s => c :: lineFeeds s

/-- The fields of a document in the order of their first appearance. -/
def parse (s : String) : Except Defect (List (String × Value)) :=
  let s := lineFeeds s.toList
  (statements (s.length + 1) {} s).map Nest.values

end KernelConfig.Toml
