import KernelConfig.Script.Library.Arguments

/-!
Functions on strings that look at single bytes, and the arithmetic of strings that denote numbers.
-/

set_option autoImplicit false

namespace KernelConfig.Script.Library

/-- The first position of a slice, counted from one; a negative one counts from the end. -/
def slicePosition (length : Nat) (i : Int) : Nat :=
  if 0 < i then i.toNat
  else if i = 0 || i < -(length : Int) then 1
  else (length + i + 1).toNat

/-- The last position of a slice; a negative one counts from the end. -/
def sliceEnd (length : Nat) (i : Int) : Nat :=
  if (length : Int) < i then length
  else if 0 ≤ i then i.toNat
  else if i < -(length : Int) then 0
  else (length + i + 1).toNat

def slice (s : Bytes) (first last : Nat) : Bytes := (s.take last).drop (first - 1)

def stringLength (args : List Value) : Task (List Value) := do
  return [whole (← checkString args 1).length]

def stringSlice (args : List Value) : Task (List Value) := do
  let s ← checkString args 1
  let i := (← checkInt args 2).toInt
  let j := (← optInt args 3 (-1)).toInt
  return [.string (slice s (slicePosition s.length i) (sliceEnd s.length j))]

def upperByte (b : UInt8) : UInt8 := if 97 ≤ b && b ≤ 122 then b - 32 else b

def lowerByte (b : UInt8) : UInt8 := if 65 ≤ b && b ≤ 90 then b + 32 else b

def mapString (f : Bytes → Bytes) (args : List Value) : Task (List Value) := do
  return [.string (f (← checkString args 1))]

/-- One copy or more, each separated from the next. -/
def repeated (s separator : Bytes) (count : Nat) : Bytes :=
  (List.replicate (count - 1) (s ++ separator)).flatten ++ s

def stringRepeat (args : List Value) : Task (List Value) := do
  let s ← checkString args 1
  let n := (← checkInt args 2).toInt
  let separator ← optString args 3 []
  if n ≤ 0 then return [.string []]
  else
    let size := (s.length + separator.length) * n.toNat
    if 2 ^ 63 ≤ size then Task.failText "resulting string too large"
    else if 2 ^ 28 ≤ size then Task.raise (.text "not enough memory")
    else if size = 0 then return [.string []]
    else return [.string (repeated s separator n.toNat)]

def stringByte (args : List Value) : Task (List Value) := do
  let s ← checkString args 1
  let i ← optInt args 2 1
  let first := slicePosition s.length i.toInt
  let last := sliceEnd s.length (← optInt args 3 (Int64.ofNat first)).toInt
  return (slice s first last).map fun b => whole b.toNat

def charCodes (args : List Value) : (n count : Nat) → Task Bytes
  | _, 0 => return []
  | n, count + 1 => do
    let i := (← checkInt args n).toInt
    if 0 ≤ i && i ≤ 255 then return i.toNat.toUInt8 :: (← charCodes args (n + 1) count)
    else badValue n "value out of range"

def stringChar (args : List Value) : Task (List Value) := do
  return [.string (← charCodes args 1 args.length)]

/-- The number that an argument is or denotes. -/
def numeric? (args : List Value) (n : Nat) : Option Value := toNumber? (argument args n)

/-- Arithmetic where an operand is a string: on the numbers that the operands denote, or else by the
second operand's metamethod. -/
def stringArithmetic (event : String) (apply : Store → Value → Value → Outcome) (args : List Value) :
    Task (List Value) := do
  let s ← Task.store
  let (a, b) := (argument args 1, argument args 2)
  match numeric? args 1, numeric? args 2 with
  | some x, some y => return [← Task.outcome (apply s x y)]
  | _, _ =>
    let refuse : Task (List Value) := Task.failText ("attempt to " ++ event ++ " a '"
      ++ a.typeName ++ "' with a '" ++ b.typeName ++ "'")
    if isString b then refuse
    else match s.metafield b (bytes ("__" ++ event)) with
      | .nil => refuse
      | f => return [first (← Task.call f [a, b])]

def stringOperator (op : BinaryOp) : List Value → Task (List Value) :=
  stringArithmetic op.name fun s a b => s.binary op a b

def stringNegate : List Value → Task (List Value) :=
  stringArithmetic "unm" fun s a _ => s.unary .negate a

end KernelConfig.Script.Library
