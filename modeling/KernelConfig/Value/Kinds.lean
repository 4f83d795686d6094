import KernelConfig.Text.Blank
import KernelConfig.Text.Case

/-!
The three states of a symbol, the types that a symbol can be declared with, and the values that it
can hold.
-/

set_option autoImplicit false

namespace KernelConfig

inductive Tristate where
  | yes
  | module
  | no
  deriving DecidableEq, Repr

namespace Tristate

def text : Tristate → String
  | yes => "y"
  | module => "m"
  | no => "n"

def memberName : Tristate → String
  | yes => "YES"
  | module => "MODULE"
  | no => "NO"

/-- The states in order: no, module, yes. -/
def level : Tristate → Nat
  | no => 0
  | module => 1
  | yes => 2

def ofBool (b : Bool) : Tristate := if b then yes else no

/-- The state with exactly this letter. -/
def ofLetter? (s : String) : Option Tristate :=
  if s = "y" then some yes else if s = "m" then some module else if s = "n" then some no else none

/-- A letter or a word in any case, blanks around it ignored. -/
def ofText? (s : String) : Option Tristate :=
  let word := Text.lower (Text.stripText s)
  if word = "y" ∨ word = "yes" then some yes
  else if word = "m" ∨ word = "module" then some module
  else if word = "n" ∨ word = "no" then some no
  else none

end Tristate

inductive SymbolType where
  | boolean
  | tristate
  | number
  | string
  | auto
  deriving DecidableEq, Repr

namespace SymbolType

def name : SymbolType → String
  | boolean => "Boolean"
  | tristate => "Tristate"
  | number => "Number"
  | string => "String"
  | auto => "Auto"

def ofName? (s : String) : Option SymbolType :=
  [boolean, tristate, number, string, auto].find? (·.name = s)

/-- Unassigned symbols of these types read as `n`, and `n` is written as a comment. -/
def isSwitch : SymbolType → Bool
  | boolean | tristate => true
  | _ => false

end SymbolType

/-- What a symbol can hold. A text is kept as it is until the declared type interprets it. -/
inductive SymbolValue where
  | auto (text : String)
  | bool (b : Bool)
  | number (n : UInt64)
  | tristate (t : Tristate)
  deriving DecidableEq, Repr

end KernelConfig
