import KernelConfig.Script.Library.Arguments

/-!
Functions on tables as sequences: joining, inserting, removing, moving and sorting.
-/

set_option autoImplicit false

namespace KernelConfig.Script.Library

/-- The length of a value; its metatable may have its say. -/
def lengthOf (v : Value) : Task Int64 := do
  match ← Task.outcome ((← Task.store).unary .length v) with
  | .int i => return i
  | .float x => match floatToInt? x with
    | some i => return i
    | none => Task.failText "object length is not an integer"
  | _ => Task.failText "object length is not an integer"

def sequenceLength (args : List Value) : Task Int64 := do
  let _ ← checkTable args 1
  lengthOf (argument args 1)

def element (t : Value) (i : Int) : Task Value := Task.index t (.int (Int64.ofInt i))

def setElement (t : Value) (i : Int) (v : Value) : Task Unit :=
  Task.assign t (.int (Int64.ofInt i)) v

/-- The texts of some elements, last one first, a separator between them. -/
def joinedPieces (t : Value) (separator : Bytes) : (count : Nat) → (i : Int) → List Bytes →
    Task (List Bytes)
  | 0, _, pieces => return pieces
  | count + 1, i, pieces => do
    match stringText? (← element t i) with
    | none => Task.failText ("invalid value (at index " ++ Text.signedDecimal i
        ++ ") in table for 'concat'")
    | some s =>
      let pieces := s :: pieces
      joinedPieces t separator count (i + 1) (if count = 0 then pieces else separator :: pieces)

def tableConcat (args : List Value) : Task (List Value) := do
  let length ← sequenceLength args
  let separator ← optString args 2 []
  let i := (← optInt args 3 1).toInt
  let j := (← optInt args 4 length).toInt
  let pieces ← joinedPieces (argument args 1) separator (j - i + 1).toNat i []
  return [.string pieces.reverse.flatten]

/-- Moves `count` elements, those up to `last`, one place up. -/
def shiftUp (t : Value) : (count : Nat) → (last : Int) → Task Unit
  | 0, _ => return ()
  | count + 1, last => do
    setElement t (last + 1) (← element t last)
    shiftUp t count (last - 1)

/-- Moves `count` elements, those after `at_`, one place down. -/
def shiftDown (t : Value) : (count : Nat) → (at_ : Int) → Task Unit
  | 0, _ => return ()
  | count + 1, i => do
    setElement t i (← element t (i + 1))
    shiftDown t count (i + 1)

def tableInsert (args : List Value) : Task (List Value) := do
  let free := (← sequenceLength args).toInt + 1
  let t := argument args 1
  match args.length with
  | 2 =>
    setElement t free (argument args 2)
    return []
  | 3 =>
    let i := (← checkInt args 2).toInt
    if 1 ≤ i && i ≤ free then
      shiftUp t (free - i).toNat (free - 1)
      setElement t i (argument args 3)
      return []
    else badValue 2 "position out of bounds"
  | _ => Task.failText "wrong number of arguments to 'insert'"

def tableRemove (args : List Value) : Task (List Value) := do
  let size := (← sequenceLength args).toInt
  let t := argument args 1
  let i := (← optInt args 2 (Int64.ofInt size)).toInt
  if i ≠ size && !(1 ≤ i && i ≤ size + 1) then badValue 2 "position out of bounds"
  else
    let removed ← element t i
    shiftDown t (size - i).toNat i
    setElement t (max i size) .nil
    return [removed]

def tablePack (args : List Value) : Task (List Value) := do
  let t : Table := { items := args.toArray }
  return [← Task.newTable (t.setText "n" (whole args.length))]

def elementsFrom (t : Value) : (count : Nat) → (i : Int) → List Value → Task (List Value)
  | 0, _, found => return found.reverse
  | count + 1, i, found => do elementsFrom t count (i + 1) ((← element t i) :: found)

def tableUnpack (args : List Value) : Task (List Value) := do
  let t := argument args 1
  let i := (← optInt args 2 1).toInt
  let j := (← if isAbsent args 3 then lengthOf t else checkInt args 3).toInt
  if j < i then return []
  else if 1000000 ≤ j - i then Task.failText "too many results to unpack"
  else elementsFrom t (j - i + 1).toNat i []

def moveUp (source target : Value) (origin place : Int) : (count : Nat) → (k : Int) → Task Unit
  | 0, _ => return ()
  | count + 1, k => do
    setElement target (place + k) (← element source (origin + k))
    moveUp source target origin place count (k + 1)

def moveDown (source target : Value) (origin place : Int) : (count : Nat) → Task Unit
  | 0 => return ()
  | count + 1 => do
    setElement target (place + count) (← element source (origin + count))
    moveDown source target origin place count

def tableMove (args : List Value) : Task (List Value) := do
  let first := (← checkInt args 2).toInt
  let last := (← checkInt args 3).toInt
  let place := (← checkInt args 4).toInt
  let _ ← checkTable args 1
  let target := if isAbsent args 5 then argument args 1 else argument args 5
  if first ≤ last then
    if !(0 < first || last < 2 ^ 63 - 1 + first) then badValue 3 "too many elements to move"
    else if !(place ≤ 2 ^ 63 - 1 - (last - first)) then badValue 4 "destination wrap around"
    else
      let count := (last - first + 1).toNat
      if last < place || place ≤ first || !rawEqual target (argument args 1) then
        moveUp (argument args 1) target first place count 0
      else moveDown (argument args 1) target first place count
      return [target]
  else return [target]

def tableCreate (args : List Value) : Task (List Value) := do
  let n := (← checkInt args 1).toInt
  let m := (← optInt args 2 0).toInt
  if n < 0 || 2 ^ 31 ≤ n then badValue 1 "out of range"
  else if m < 0 || 2 ^ 31 ≤ m then badValue 2 "out of range"
  else return [← Task.newTable {}]

/-! ### Sorting -/

structure Sorting where
  table : Value
  /-- The order function, if one is given. -/
  before : Option Value

namespace Sorting

def precedes (o : Sorting) (a b : Value) : Task Bool :=
  match o.before with
  | none => Task.less a b
  | some f => do return (first (← Task.call f [a, b])).isTruthy

def exchange (o : Sorting) (i j : Nat) (atI atJ : Value) : Task Unit := do
  setElement o.table i atJ
  setElement o.table j atI

/-- Exchanges two elements if they are out of order. -/
def order (o : Sorting) (i j : Nat) : Task Bool := do
  let a ← element o.table i
  let b ← element o.table j
  if ← o.precedes b a then
    o.exchange i j a b
    return true
  else return false

def orderFault {α : Type} : Task α := Task.failText "invalid order function for sorting"

/-- The first element after `i` that does not precede the pivot. -/
def scanUp (o : Sorting) (pivot : Value) (stop : Nat) : (fuel i : Nat) → Task (Nat × Value)
  | 0, _ => orderFault
  | fuel + 1, i => do
    let v ← element o.table (i + 1 : Nat)
    if ← o.precedes v pivot then
      if i + 1 = stop then orderFault else scanUp o pivot stop fuel (i + 1)
    else return (i + 1, v)

/-- The last element before `j` that the pivot does not precede. -/
def scanDown (o : Sorting) (pivot : Value) (i : Nat) : (fuel j : Nat) → Task (Nat × Value)
  | 0, _ => orderFault
  | fuel + 1, j => do
    let v ← element o.table (j - 1 : Nat)
    if ← o.precedes pivot v then
      if j - 1 < i then orderFault else scanDown o pivot i fuel (j - 1)
    else return (j - 1, v)

/-- Parts the elements between `i` and `j` by the pivot, which is kept before the last of them. -/
def divide (o : Sorting) (pivot : Value) (last : Nat) : (fuel i j : Nat) → Task Nat
  | 0, _, _ => orderFault
  | fuel + 1, i, j => do
    let (i, a) ← o.scanUp pivot (last - 1) (last + 1) i
    let (j, b) ← o.scanDown pivot i (last + 1) j
    if j < i then
      o.exchange (last - 1) i (← element o.table (last - 1 : Nat)) a
      return i
    else
      o.exchange i j a b
      divide o pivot last fuel i j

/-- Sorts the elements from `low` to `high`: the median of three is the pivot. -/
def sortRange (o : Sorting) : (fuel low high : Nat) → Task Unit
  | 0, _, _ => return ()
  | fuel + 1, low, high => do
    if high ≤ low then return ()
    else
      let _ ← o.order low high
      if high - low = 1 then return ()
      else
        let mid := (low + high) / 2
        if !(← o.order low mid) then
          let _ ← o.order mid high
        if high - low = 2 then return ()
        else
          let pivot ← element o.table mid
          o.exchange mid (high - 1) pivot (← element o.table (high - 1 : Nat))
          let p ← o.divide pivot high (high + 1) low (high - 1)
          if p - low < high - p then
            sortRange o fuel low (p - 1)
            sortRange o fuel (p + 1) high
          else
            sortRange o fuel (p + 1) high
            sortRange o fuel low (p - 1)

end Sorting

def tableSort (args : List Value) : Task (List Value) := do
  let n ← sequenceLength args
  if 1 < n then
    if 2147483647 ≤ n then badValue 1 "array too big"
    else
      let before ← if isAbsent args 2 then pure none else pure (some (← checkFunction args 2))
      let o : Sorting := ⟨argument args 1, before⟩
      o.sortRange (n.toInt.toNat + 1) 1 n.toInt.toNat
      return []
  else return []

end KernelConfig.Script.Library
