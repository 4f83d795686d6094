import KernelConfig.Decimal.Double

/-!
Values of declaration documents, and how a document can fail to be read.
-/

set_option autoImplicit false

namespace KernelConfig.Toml

inductive Value where
  | text (s : String)
  | integer (i : Int)
  | float (x : Double)
  | boolean (b : Bool)
  /-- A date, a time of day, or both, as it is written. -/
  | moment (written : String)
  | array (items : List Value)
  | table (fields : List (String × Value))
  deriving BEq, Repr, Inhabited

/-- A document breaks the grammar, or it has a decimal integer of too many digits. -/
inductive Defect where
  | malformed
  | oversized (digits : Nat)
  deriving DecidableEq, Repr

/-- What has been read from the start of a text, and the rest of the text. -/
abbrev Taken (α : Type) := α × List Char

def isSpacing (c : Char) : Bool := c == ' ' || c == '\t'

def skipSpacing (s : List Char) : List Char := s.dropWhile isSpacing

/-- Control characters other than the tab; a comment and a string of one line hold none. -/
def isBarred (c : Char) : Bool := (c.toNat < 32 || c.toNat == 127) && c != '\t'

end KernelConfig.Toml
