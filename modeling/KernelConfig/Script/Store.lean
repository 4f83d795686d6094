import KernelConfig.Script.Code
import KernelConfig.Script.Table

/-!
The store of a running script: its tables, the variables that functions share, and its functions.
-/

set_option autoImplicit false

namespace KernelConfig.Script

structure Closure where
  chunk : Chunk
  index : Nat
  upvalues : Array Nat
  deriving Inhabited

def Closure.function (c : Closure) : Function := c.chunk.getD c.index default

structure Store where
  tables : Array Table := #[]
  cells : Array Value := #[]
  closures : Array Closure := #[]
  globals : Nat := 0
  loaded : Nat := 0
  /-- Metatables of the values that are not tables, by the name of their type. -/
  metatables : List (String × Nat) := []
  random : UInt64 × UInt64 × UInt64 × UInt64 := (1, 2, 3, 4)
  deriving Inhabited

namespace Store

def addTable (s : Store) (t : Table) : Store × Nat :=
  let id := s.tables.size
  ({ s with tables := s.tables.push t }, id)

def addCell (s : Store) (v : Value) : Store × Nat :=
  let id := s.cells.size
  ({ s with cells := s.cells.push v }, id)

def addClosure (s : Store) (c : Closure) : Store × Nat :=
  let id := s.closures.size
  ({ s with closures := s.closures.push c }, id)

def table (s : Store) (id : Nat) : Table := s.tables.getD id {}

def cell (s : Store) (id : Nat) : Value := s.cells.getD id .nil

def setCell (s : Store) (id : Nat) (v : Value) : Store :=
  { s with cells := s.cells.setIfInBounds id v }

def closure (s : Store) (id : Nat) : Closure := s.closures.getD id default

def updateTable (s : Store) (id : Nat) (f : Table → Table) : Store :=
  { s with tables := s.tables.modify id f }

def rawGet (s : Store) (id : Nat) (k : Value) : Value := (s.table id).get k

def rawSet (s : Store) (id : Nat) (k v : Value) : Store := s.updateTable id (·.set k v)

def setText (s : Store) (id : Nat) (key : String) (v : Value) : Store := s.rawSet id (.text key) v

def getText (s : Store) (id : Nat) (key : String) : Value := s.rawGet id (.text key)

def metatable? (s : Store) (v : Value) : Option Nat :=
  match v with
  | .table id => (s.table id).metatable
  | v => (s.metatables.find? (·.1 = v.typeName)).map (·.2)

/-- A field of a value's metatable; nil if there is none. -/
def metafield (s : Store) (v : Value) (name : Bytes) : Value :=
  match s.metatable? v with
  | none => .nil
  | some id => (s.table id).getKey (.string name)

/-- What error messages call the type of a value: its metatable may give it a name. -/
def typeNameOf (s : Store) (v : Value) : Bytes :=
  match v with
  | .host _ => bytes "POBJECT"
  | .table _ => match s.metafield v (bytes "__name") with
    | .string name => name
    | _ => bytes "table"
  | v => bytes v.typeName

end Store

end KernelConfig.Script
