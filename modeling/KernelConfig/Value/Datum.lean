import KernelConfig.Decimal.Notation
import KernelConfig.Text.Quoted
import KernelConfig.Value.Kinds

/-!
Data of any kind, as scripts, settings and log records hand them over, and the way in which
messages show them.
-/

set_option autoImplicit false

namespace KernelConfig

/-- Things that a script can hand over only by reference. -/
inductive Handle where
  | table
  | function
  | coroutine
  | thread
  | hostFunction
  | failure (name : String)
  deriving DecidableEq, Repr

def Handle.kindName : Handle → String
  | table => "_LuaTable"
  | function => "_LuaFunction"
  | coroutine => "_LuaCoroutineFunction"
  | thread => "_LuaThread"
  | hostFunction => "function"
  | failure name => name

inductive Datum where
  | null
  | bool (b : Bool)
  | int (i : Int)
  | float (x : Double)
  | text (s : String)
  | tristate (t : Tristate)
  | list (items : List Datum)
  | dict (fields : List (String × Datum))
  | handle (h : Handle)
  deriving BEq, Repr, Inhabited

namespace Datum

def kindName : Datum → String
  | null => "NoneType"
  | bool _ => "bool"
  | int _ => "int"
  | float _ => "float"
  | text _ => "str"
  | tristate _ => "Tristate"
  | list _ => "list"
  | dict _ => "dict"
  | handle h => h.kindName

mutual

/-- A datum as messages show it: texts quoted, lists and dictionaries in brackets. -/
def shown : Datum → String
  | null => "None"
  | bool b => if b then "True" else "False"
  | int i => Text.signedDecimal i
  | float x => Decimal.shortestText x
  | text s => Text.quoted s
  | tristate t => "<Tristate." ++ t.memberName ++ ": " ++ Text.quoted t.text ++ ">"
  | list items => "[" ++ ", ".intercalate (shownItems items) ++ "]"
  | dict fields => "\x7b" ++ ", ".intercalate (shownFields fields) ++ "\x7d"
  | handle h => "<" ++ h.kindName ++ ">"

def shownItems : List Datum → List String
  | [] => []
  | d :: rest => d.shown :: shownItems rest

def shownFields : List (String × Datum) → List String
  | [] => []
  | (k, d) :: rest => (Text.quoted k ++ ": " ++ d.shown) :: shownFields rest

end

/-- A datum on its own: a text is not quoted. -/
def display : Datum → String
  | text s => s
  | tristate t => "Tristate." ++ t.memberName
  | d => d.shown

/-- Whether a datum counts as true: nothing, zeros and whatever is empty do not. -/
def isTruthy : Datum → Bool
  | null => false
  | bool b => b
  | int i => i ≠ 0
  | float x => x.isNan || x.significand ≠ 0 || x.isInfinite
  | text s => s ≠ ""
  | tristate _ => true
  | list items => !items.isEmpty
  | dict fields => !fields.isEmpty
  | handle _ => true

def ofOption : Option String → Datum
  | none => null
  | some s => text s

end Datum

end KernelConfig
