import KernelConfig.Script.Operation

/-!
Activations: functions of a script that are being run, each with its local variables, its operands
and the place that it has come to.
-/

set_option autoImplicit false

namespace KernelConfig.Script

/-- A local variable: its value, or the shared variable that it became when a closure captured it. -/
inductive Local where
  | value (v : Value)
  | shared (cell : Nat)
  deriving Inhabited

/-- What becomes of the results of a call. -/
inductive Await where
  | results (want : Want)
  | first
  | truth (negate : Bool)
  | nothing
  | method (object : Value)
  /-- The result is the right operand of a concatenation with the operands that are left, last one first. -/
  | concat (rest : List (Value × Option Origin))
  | iterate (slot count : Nat)
  | returned

structure Activation where
  closure : Nat
  chunk : Chunk
  function : Function
  upvalues : Array Nat
  pc : Nat := 0
  slots : Array Local
  stack : List Value := []
  /-- Values put aside for the instruction that takes a list of any length. -/
  spread : List Value := []
  varargs : List Value
  await : Await := .nothing
  /-- Slots whose values are to be closed, latest first. -/
  toClose : List Nat := []
  origin : Option Origin
  isTail : Bool
  extraArguments : Nat
  /-- Whether the function was called by something other than a call in a script. -/
  isNested : Bool

namespace Activation

def fillSlots : (slots : Array Local) → (i : Nat) → (n : Nat) → List Value → Array Local
  | slots, _, 0, _ => slots
  | slots, _, _, [] => slots
  | slots, i, n + 1, v :: rest => fillSlots (slots.setIfInBounds i (.value v)) (i + 1) n rest

/-- The activation of a closure with its arguments. -/
def enter (s : Store) (id : Nat) (args : List Value) (origin : Option Origin) (isTail : Bool)
    (extraArguments : Nat) (isNested : Bool) : Activation :=
  let c := s.closure id
  let f := c.function
  { closure := id, chunk := c.chunk, function := f, upvalues := c.upvalues
    slots := fillSlots (Array.replicate f.slots (.value .nil)) 0 f.parameters args
    varargs := if f.varargs then args.drop f.parameters else []
    origin, isTail, extraArguments, isNested }

/-- The line of the instruction that was begun last. -/
def line (a : Activation) : Nat := ((a.function.ops[a.pc - 1]?).map (·.line)).getD 0

def push (a : Activation) (v : Value) : Activation := { a with stack := v :: a.stack }

def getSlot (a : Activation) (s : Store) (i : Nat) : Value :=
  match a.slots.getD i (.value .nil) with
  | .value v => v
  | .shared cell => s.cell cell

/-- Gives a slot to a new variable. -/
def newSlot (a : Activation) (i : Nat) (v : Value) : Activation :=
  { a with slots := a.slots.setIfInBounds i (.value v) }

/-- New variables in consecutive slots. -/
def newSlots (a : Activation) : (i : Nat) → List Value → Activation
  | _, [] => a
  | i, v :: rest => newSlots (a.newSlot i v) (i + 1) rest

/-- The shared variable of a slot; the slot's own variable becomes one. -/
def share (a : Activation) (s : Store) (i : Nat) : Store × Activation × Nat :=
  match a.slots.getD i (.value .nil) with
  | .shared cell => (s, a, cell)
  | .value v =>
    let (s, cell) := s.addCell v
    (s, { a with slots := a.slots.setIfInBounds i (.shared cell) }, cell)

def capture (s : Store) (a : Activation) : List Capture → (cells : Array Nat) → Store × Activation × Array Nat
  | [], cells => (s, a, cells)
  | .slot i :: rest, cells =>
    let (s, a, cell) := a.share s i
    capture s a rest (cells.push cell)
  | .upvalue i :: rest, cells => capture s a rest (cells.push (a.upvalues.getD i 0))

/-- The last `n` operands in the order in which they were pushed, and the ones below. -/
def takeOperands : (n : Nat) → (stack taken : List Value) → List Value × List Value
  | 0, stack, taken => (taken, stack)
  | _ + 1, [], taken => (taken, [])
  | n + 1, v :: stack, taken => takeOperands n stack (v :: taken)

/-- The values to be closed, latest first. -/
def closing (a : Activation) (s : Store) : List Value := a.toClose.map (a.getSlot s)

end Activation

end KernelConfig.Script
