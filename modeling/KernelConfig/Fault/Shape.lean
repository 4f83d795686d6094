/-!
Data that do not have the shape asked for: what is wrong, and where in the data.
-/

set_option autoImplicit false

namespace KernelConfig

inductive Misfit where
  | missing
  | unknownKey
  | notATable
  | notADeclaration
  | notATypeName
  | notARange
  | tooLong
  | notAText
  | notAPath
  | notABool
  | unreadableBool
  | notAnInteger
  | unreadableInteger
  | oversizedInteger
  | fractional
  | notFinite
  | notAFloat
  | unreadableFloat
  | notAbove
  | below
  | unsuitable
  deriving DecidableEq, Repr

def Misfit.name : Misfit → String
  | missing => "missing"
  | unknownKey => "extra_forbidden"
  | notATable => "dict_type"
  | notADeclaration => "model_type"
  | notATypeName => "literal_error"
  | notARange => "tuple_type"
  | tooLong => "too_long"
  | notAText => "string_type"
  | notAPath => "path_type"
  | notABool => "bool_type"
  | unreadableBool => "bool_parsing"
  | notAnInteger => "int_type"
  | unreadableInteger => "int_parsing"
  | oversizedInteger => "int_parsing_size"
  | fractional => "int_from_float"
  | notFinite => "finite_number"
  | notAFloat => "float_type"
  | unreadableFloat => "float_parsing"
  | notAbove => "greater_than"
  | below => "greater_than_equal"
  | unsuitable => "value_error"

structure ShapeFault where
  place : List String
  misfit : Misfit
  deriving DecidableEq, Repr

/-- A fault inside the part of the data that a key leads to. -/
def ShapeFault.under (key : String) (f : ShapeFault) : ShapeFault := { f with place := key :: f.place }

/-- A value, or everything that is wrong with the data. -/
abbrev Shaped (α : Type) := Except (List ShapeFault) α

namespace Shaped

def fault {α : Type} (misfit : Misfit) : Shaped α := .error [⟨[], misfit⟩]

def of {α : Type} : Except Misfit α → Shaped α
  | .ok a => .ok a
  | .error misfit => fault misfit

def under {α : Type} (key : String) (r : Shaped α) : Shaped α :=
  r.mapError fun fs => fs.map (·.under key)

/-- Both values, or the faults of both in order. -/
def both {α β : Type} : Shaped α → Shaped β → Shaped (α × β)
  | .ok a, .ok b => .ok (a, b)
  | .error e, .ok _ => .error e
  | .ok _, .error e => .error e
  | .error e, .error e' => .error (e ++ e')

/-- All values, or the faults of all in order. -/
def all {α β : Type} (check : α → Shaped β) : List α → Shaped (List β)
  | [] => .ok []
  | a :: rest => ((check a).both (all check rest)).map fun (b, bs) => b :: bs

end Shaped

end KernelConfig
