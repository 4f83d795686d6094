import KernelConfig.Toml.Value

/-!
Tables while a document is read. A table that only a longer heading or a dotted key has made may
still be given a heading or more keys; what an inline value holds is closed.
-/

set_option autoImplicit false

namespace KernelConfig.Toml

/-- How a table came to be. -/
inductive Standing where
  /-- On the way to a longer heading. -/
  | implied
  /-- By a dotted key, after so many headings. -/
  | dotted (headings : Nat)
  | headed
  deriving DecidableEq, Repr

inductive Node where
  | value (v : Value)
  | table (standing : Standing) (fields : List (String × Node))
  /-- An array of tables: the finished ones, latest first, and the open one. -/
  | tables (earlier : List Value) (fields : List (String × Node))
  deriving Repr

abbrev Nest := List (String × Node)

namespace Nest

mutual

def nodeValue : Node → Value
  | .value v => v
  | .table _ fields => .table (values fields)
  | .tables earlier fields => .array (earlier.reverse ++ [.table (values fields)])

def values : Nest → List (String × Value)
  | [] => []
  | (k, n) :: rest => (k, nodeValue n) :: values rest

end

/-- Changes what a key has, or gives it something; `change` may refuse. -/
def alter (key : String) (change : Option Node → Option Node) : Nest → Option Nest
  | [] => (change none).map fun n => [(key, n)]
  | (k, n) :: rest =>
    if k = key then (change (some n)).map fun n => (k, n) :: rest
    else (alter key change rest).map ((k, n) :: ·)

/-- Changes the table that a heading's path leads to, making tables on the way. -/
def within (change : Nest → Option Nest) : List String → Nest → Option Nest
  | [], nest => change nest
  | key :: path, nest => nest.alter key fun
    | none => (within change path []).map (.table .implied)
    | some (.table standing fields) => (within change path fields).map (.table standing)
    | some (.tables earlier fields) => (within change path fields).map (.tables earlier)
    | some (.value _) => none

/-- Gives a table its heading. -/
def openTable (path : List String) (nest : Nest) : Option Nest :=
  nest.within (fun fields => fields.alter (path.getLastD "") fun
    | none => some (.table .headed [])
    | some (.table .implied fields) => some (.table .headed fields)
    | some _ => none) path.dropLast

/-- Opens the next table of an array. -/
def appendTable (path : List String) (nest : Nest) : Option Nest :=
  nest.within (fun fields => fields.alter (path.getLastD "") fun
    | none => some (.tables [] [])
    | some (.tables earlier fields) => some (.tables (.table (values fields) :: earlier) [])
    | some _ => none) path.dropLast

/-- Gives a value to a dotted key after so many headings. -/
def assign (headings : Nat) (v : Value) : List String → Nest → Option Nest
  | [], _ => none
  | key :: path, nest =>
    if path.isEmpty then nest.alter key fun
      | none => some (.value v)
      | some _ => none
    else nest.alter key fun
      | none => (assign headings v path []).map (.table (.dotted headings))
      | some (.table .implied fields) =>
        (assign headings v path fields).map (.table (.dotted headings))
      | some (.table (.dotted n) fields) =>
        if n = headings then (assign headings v path fields).map (.table (.dotted n)) else none
      | some _ => none

end Nest

end KernelConfig.Toml
