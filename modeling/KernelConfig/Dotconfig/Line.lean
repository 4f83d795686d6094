import KernelConfig.Text.Blank

/-!
One line of a configuration file: an assignment, the comment that a symbol is not set, or nothing
that counts. Quoted values are read leniently: a backslash stands for the character after it, and
only the first and the last character need to be quotes.
-/

set_option autoImplicit false

namespace KernelConfig.Dotconfig

def isNameChar (c : Char) : Bool :=
  ('A' ≤ c && c ≤ 'Z') || ('a' ≤ c && c ≤ 'z') || ('0' ≤ c && c ≤ '9') || c = '_'

/-- The rest of a text after the given beginning. -/
def afterLead (lead : List Char) (s : List Char) : Option (List Char) :=
  if lead.isPrefixOf s then some (s.drop lead.length) else none

/-- A quote, and the text with a backslash before every quote and backslash. -/
def escape : List Char → List Char
  | [] => []
  | c :: rest => if c = '"' || c = '\\' then '\\' :: c :: escape rest else c :: escape rest

def quote (s : List Char) : List Char := '"' :: escape s ++ ['"']

def quoteText (s : String) : String := String.ofList (quote s.toList)

/-- A backslash stands for the character after it; one at the end stands for nothing. -/
def unescape : List Char → List Char
  | [] => []
  | '\\' :: c :: rest => c :: unescape rest
  | c :: rest => if c = '\\' then unescape rest else c :: unescape rest

/-- The text between the first character and a final quote. -/
def unquote (s : List Char) : Option (List Char) :=
  if 2 ≤ s.length && s.getLast? = some '"' then some (unescape (s.drop 1).dropLast) else none

inductive LineFault where
  | unterminated
  | malformed (line : String)
  deriving DecidableEq, Repr

structure Assignment where
  name : String
  value : String
  quoted : Bool
  deriving DecidableEq, Repr

/-- The name in a comment that says that a symbol is not set. -/
def unsetName (line : List Char) : Option (List Char) :=
  match line with
  | '#' :: rest =>
    let rest := rest.dropWhile Text.isBlank
    let name := rest.takeWhile isNameChar
    if !name.isEmpty && rest.dropWhile isNameChar = " is not set".toList then some name else none
  | _ => none

/-- The name and the text of an assignment. -/
def splitAssignment (line : List Char) : Option (List Char × List Char) :=
  let name := line.takeWhile isNameChar
  match line.dropWhile isNameChar with
  | '=' :: value => if name.isEmpty then none else some (name, value)
  | _ => none

def readValue (name value : List Char) : Except LineFault (Option Assignment) :=
  if value.head? = some '"' then
    match unquote value with
    | some s => .ok (some ⟨String.ofList name, String.ofList s, true⟩)
    | none => .error .unterminated
  else .ok (some ⟨String.ofList name, String.ofList value, false⟩)

/-- Reads one line; `lead` begins the names of all symbols. -/
def readLine (lead raw : List Char) : Except LineFault (Option Assignment) :=
  let line := Text.strip raw
  if line.isEmpty then .ok none
  else match unsetName line with
    | some name =>
      .ok ((afterLead lead name).map fun symbol => ⟨String.ofList symbol, "n", false⟩)
    | none =>
      if line.head? = some '#' then .ok none
      else match splitAssignment line with
        | none => .error (.malformed (String.ofList raw))
        | some (name, value) => match afterLead lead name with
          | none => .error (.malformed (String.ofList raw))
          | some symbol => readValue symbol (Text.strip value)

end KernelConfig.Dotconfig
