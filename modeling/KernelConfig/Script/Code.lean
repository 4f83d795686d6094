import KernelConfig.Script.Value

/-!
Code: what a script is turned into before it runs. A function's instructions work on a stack of
operands and on numbered slots, which hold its local variables.
-/

set_option autoImplicit false

namespace KernelConfig.Script

/-- How messages name the place that a value came from. -/
inductive NameKind where
  | localVariable
  | upvalue
  | global
  | field
  | method
  | constant
  | metamethod
  | forIterator
  | hook
  deriving DecidableEq, Repr

def NameKind.text : NameKind → String
  | localVariable => "local"
  | upvalue => "upvalue"
  | global => "global"
  | field => "field"
  | method => "method"
  | constant => "constant"
  | metamethod => "metamethod"
  | forIterator => "for iterator"
  | hook => "hook"

structure Origin where
  kind : NameKind
  name : Bytes
  deriving DecidableEq, Repr

inductive UnaryOp where
  | negate
  | bitNot
  | length
  deriving DecidableEq, Repr

inductive BinaryOp where
  | add | sub | mul | mod | pow | div | idiv | band | bor | bxor | shl | shr
  deriving DecidableEq, Repr

inductive Comparison where
  | eq | ne | lt | le | gt | ge
  deriving DecidableEq, Repr

/-- How many results a call or a vararg expression leaves: a number of them on the stack, or all of
them aside for the instruction that takes a list of any length. -/
inductive Want where
  | exactly (n : Nat)
  | all
  deriving DecidableEq, Repr

/-- Where a new closure finds a variable of an enclosing function. -/
inductive Capture where
  | slot (i : Nat)
  | upvalue (i : Nat)
  deriving DecidableEq, Repr

/-- Jumps name labels until a function is complete and positions after that. A flag says whether
the operands are followed by the values that were put aside. -/
inductive Instr where
  | push (v : Value)
  | pop
  | getSlot (i : Nat)
  | setSlot (i : Nat)
  | newSlot (i : Nat)
  | getUpvalue (i : Nat)
  | setUpvalue (i : Nat)
  | index (origin : Option Origin)
  | field (name : Bytes) (origin : Option Origin)
  | setIndex (origin : Option Origin)
  | setIndexUnder (origin : Option Origin)
  | checkUndefined (name : Bytes)
  | newTable
  | setItem (i : Nat)
  | setItems (start : Nat)
  | setField
  | method (name : Bytes) (origin : Option Origin)
  | call (arguments : Nat) (spread : Bool) (want : Want) (origin : Option Origin)
  | tailCall (arguments : Nat) (spread : Bool) (origin : Option Origin)
  | ret (values : Nat) (spread : Bool)
  | varargs (want : Want)
  | packVarargs
  | closure (index : Nat)
  | unary (op : UnaryOp) (origin : Option Origin)
  | binary (op : BinaryOp) (left right : Option Origin)
  | concat (origins : List (Option Origin))
  | compare (op : Comparison)
  | not
  | label (l : Nat)
  | jump (l : Nat)
  | jumpUnless (l : Nat)
  | jumpIf (l : Nat)
  | jumpUnlessKeep (l : Nat)
  | jumpIfKeep (l : Nat)
  | forPrepare (slot : Nat) (exit : Nat)
  | forStep (slot : Nat) (body : Nat)
  | iterate (slot : Nat) (count : Nat)
  | iterateTest (slot : Nat) (exit : Nat)
  | markClose (slot : Nat) (name : Bytes)
  | closeFrom (slot : Nat)
  deriving DecidableEq, Repr, Inhabited

/-- An instruction with its line. -/
structure Op where
  instr : Instr
  line : Nat
  deriving DecidableEq, Repr, Inhabited

abbrev Code := List Op

structure Function where
  source : Bytes
  lineDefined : Nat
  lastLine : Nat
  parameters : Nat
  varargs : Bool
  slots : Nat
  captures : List Capture
  upvalueNames : List Bytes
  ops : Array Op
  deriving DecidableEq, Repr, Inhabited

/-- A chunk's functions; each refers to the others by their place, and the first one is the main function. -/
abbrev Chunk := Array Function

/-- The position of every label in a list of instructions; labels themselves take no place. -/
def labelPositions (at_ : Nat) : Code → List (Nat × Nat)
  | [] => []
  | ⟨.label l, _⟩ :: rest => (l, at_) :: labelPositions at_ rest
  | _ :: rest => labelPositions (at_ + 1) rest

def Instr.resolve (position : Nat → Nat) : Instr → Instr
  | jump l => jump (position l)
  | jumpUnless l => jumpUnless (position l)
  | jumpIf l => jumpIf (position l)
  | jumpUnlessKeep l => jumpUnlessKeep (position l)
  | jumpIfKeep l => jumpIfKeep (position l)
  | forPrepare s l => forPrepare s (position l)
  | forStep s l => forStep s (position l)
  | iterateTest s l => iterateTest s (position l)
  | i => i

/-- Instructions with positions for labels; `aliases` names the label that stands for another one. -/
def assemble (labels : Nat) (aliases : List (Nat × Nat)) (code : Code) : Array Op :=
  let set (ps : Array Nat) (e : Nat × Nat) := ps.setIfInBounds e.1 e.2
  let positions := (labelPositions 0 code).foldl set (Array.replicate labels 0)
  let positions := aliases.foldl (fun ps e => set ps (e.1, ps.getD e.2 0)) positions
  (code.filterMap fun op => match op.instr with
    | .label _ => none
    | i => some ⟨i.resolve (positions.getD · 0), op.line⟩).toArray

end KernelConfig.Script
