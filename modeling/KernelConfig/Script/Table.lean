import Std.Data.TreeMap.Basic
import KernelConfig.Script.Numeral

/-!
Tables: values of the keys from one on in an array, the others by key. Keys are visited in the order
of the array and then of their first assignment.
-/

set_option autoImplicit false

namespace KernelConfig.Script

def compareBytes : Bytes → Bytes → Ordering
  | [], [] => .eq
  | [], _ :: _ => .lt
  | _ :: _, [] => .gt
  | a :: as, b :: bs => if a == b then compareBytes as bs else if a < b then .lt else .gt

/-- What tells keys apart: a float that is whole is the integer, references have a kind and a number. -/
inductive Key where
  | bool (b : Bool)
  | int (i : Int64)
  | float (bits : UInt64)
  | string (s : Bytes)
  | ref (kind id : Nat)
  | named (kind : Nat) (s : Bytes)
  deriving DecidableEq, Repr

namespace Key

def rank : Key → Nat
  | bool _ => 0
  | int _ => 1
  | float _ => 2
  | string _ => 3
  | ref _ _ => 4
  | named _ _ => 5

def compare (a b : Key) : Ordering :=
  match a, b with
  | string s, string t => compareBytes s t
  | int i, int j => if i == j then .eq else if i < j then .lt else .gt
  | bool x, bool y => Ord.compare x.toNat y.toNat
  | float x, float y => Ord.compare x.toNat y.toNat
  | ref j x, ref k y => (Ord.compare j k).then (Ord.compare x y)
  | named j s, named k t => (Ord.compare j k).then (compareBytes s t)
  | a, b => Ord.compare a.rank b.rank

end Key

/-- The integer that a float equals, if it is one of 64 bits. -/
def floatToInt? (x : Double) : Option Int64 :=
  match x.toInt? with
  | none => none
  | some i => if -(2 : Int) ^ 63 ≤ i && i < 2 ^ 63 then some (Int64.ofInt i) else none

def nativeKey (fn : Native) : Key :=
  match fn with
  | .gmatchStep _ _ cell => .ref 4 cell
  | .wrapped thread => .ref 5 thread
  | .utf8CodesStep lax => .ref 6 lax.toNat
  | fn => .ref 7 fn.ctorIdx

/-- The key of a value; nil has none, and neither has a float that is no number. -/
def Value.key? : Value → Option Key
  | .nil => none
  | .bool b => some (.bool b)
  | .int i => some (.int i)
  | .float x =>
    match floatToInt? x with
    | some i => some (.int i)
    | none => if x.isNan then none else some (.float x.bits)
  | .string s => some (.string s)
  | .table id => some (.ref 1 id)
  | .closure id => some (.ref 2 id)
  | .thread id => some (.ref 3 id)
  | .native fn => some (nativeKey fn)
  | .host (.function name) => some (.named 0 (bytes name))
  | .host (.failure m) => some (.named 1 (bytes m.message))

structure Slot where
  number : Nat
  key : Value
  value : Value
  deriving Inhabited

structure Table where
  items : Array Value := #[]
  slots : Std.TreeMap Key Slot Key.compare := ∅
  order : Std.TreeMap Nat Key := ∅
  nextNumber : Nat := 0
  metatable : Option Nat := none

instance : Inhabited Table := ⟨{}⟩

namespace Table

/-- The position in the array of an integer key. -/
def position? (t : Table) (i : Int64) : Option Nat :=
  if 1 ≤ i && i ≤ Int64.ofNat t.items.size then some (i.toInt.toNat - 1) else none

def getKey (t : Table) (k : Key) : Value :=
  match k with
  | .int i => match t.position? i with
    | some p => t.items.getD p .nil
    | none => ((t.slots.get? k).map (·.value)).getD .nil
  | k => ((t.slots.get? k).map (·.value)).getD .nil

def get (t : Table) (k : Value) : Value :=
  match k.key? with
  | none => .nil
  | some k => t.getKey k

def getText (t : Table) (s : String) : Value := t.getKey (.string (bytes s))

/-- Moves the values of the keys after the array into it, as far as they go on without a gap. -/
def absorb : (fuel : Nat) → Table → Table
  | 0, t => t
  | fuel + 1, t =>
    let k : Key := .int (Int64.ofNat (t.items.size + 1))
    match t.slots.get? k with
    | none => t
    | some slot =>
      if slot.value.isNil then t
      else absorb fuel { t with
        items := t.items.push slot.value
        slots := t.slots.erase k
        order := t.order.erase slot.number }

def addSlot (t : Table) (k : Key) (key v : Value) : Table :=
  { t with
    slots := t.slots.insert k ⟨t.nextNumber, key, v⟩
    order := t.order.insert t.nextNumber k
    nextNumber := t.nextNumber + 1 }

/-- Sets a key outside the array; a key that has once been there keeps its place in the order. -/
def setSlot (t : Table) (k : Key) (key v : Value) : Table :=
  match t.slots.get? k with
  | some slot => { t with slots := t.slots.insert k { slot with value := v } }
  | none => if v.isNil then t else t.addSlot k key v

def setKey (t : Table) (k : Key) (key v : Value) : Table :=
  match k with
  | .int i => match t.position? i with
    | some p => { t with items := t.items.setIfInBounds p v }
    | none =>
      if i == Int64.ofNat (t.items.size + 1) && !v.isNil then
        let number? := (t.slots.get? k).map (·.number)
        let t := match number? with
          | some n => { t with slots := t.slots.erase k, order := t.order.erase n }
          | none => t
        let t := { t with items := t.items.push v }
        if t.slots.isEmpty then t else absorb t.slots.size t
      else t.setSlot k (.int i) v
  | .float _ => t.setSlot k key v
  | k => t.setSlot k key v

/-- Sets a key that is neither nil nor a NaN. -/
def set (t : Table) (k v : Value) : Table :=
  match k.key? with
  | none => t
  | some key => t.setKey key k v

def setText (t : Table) (s : String) (v : Value) : Table := t.set (.text s) v

/-- Whether the array holds a value at a key. -/
def holds (t : Table) (i : Nat) : Bool :=
  if i = 0 then true else !(t.items.getD (i - 1) .nil).isNil

/-- A key between `low` and `high` with a value and none after it, when `low` has one and `high` has none. -/
def searchBorder (t : Table) : (fuel low high : Nat) → Nat
  | 0, low, _ => low
  | fuel + 1, low, high =>
    if high - low ≤ 1 then low
    else
      let mid := (low + high) / 2
      if t.holds mid then searchBorder t fuel mid high else searchBorder t fuel low mid

/-- Looks for a border downwards from an empty key. -/
def borderBelow (t : Table) : (steps limit : Nat) → Nat
  | 0, limit => t.searchBorder 64 0 limit
  | steps + 1, limit =>
    if limit ≤ 1 then t.searchBorder 64 0 limit
    else if t.holds (limit - 1) then limit - 1
    else borderBelow t steps (limit - 1)

/-- Looks for a border upwards from a key with a value. -/
def borderAbove (t : Table) : (steps at_ : Nat) → Option Nat
  | 0, _ => none
  | steps + 1, i =>
    if t.items.size ≤ i then none
    else if t.holds (i + 1) then borderAbove t steps (i + 1)
    else some i

/-- The keys after the array that have values without a gap. -/
def lastAfter (t : Table) : (fuel n : Nat) → Nat
  | 0, n => n
  | fuel + 1, n =>
    if (t.getKey (.int (Int64.ofNat (n + 1)))).isNil then n else lastAfter t fuel (n + 1)

/-- A border: a key with a value, or zero, with no value after it. -/
def length (t : Table) : Nat :=
  let size := t.items.size
  if size = 0 then t.lastAfter t.slots.size 0
  else
    let hint := max (size / 2) 1
    if !t.holds hint then t.borderBelow 4 hint
    else match t.borderAbove 4 hint with
      | some n => n
      | none =>
        if t.holds size then t.lastAfter t.slots.size size else t.searchBorder 64 hint size

/-- The first key from a position in the array on that has a value. -/
def nextItem (t : Table) : (fuel p : Nat) → Option (Value × Value)
  | 0, _ => none
  | fuel + 1, p =>
    if t.items.size ≤ p then none
    else
      let v := t.items.getD p .nil
      if v.isNil then nextItem t fuel (p + 1) else some (.int (Int64.ofNat (p + 1)), v)

/-- The first key after a number in the order that has a value. -/
def nextSlot (t : Table) : (fuel : Nat) → (after : Option Nat) → Option (Value × Value)
  | 0, _ => none
  | fuel + 1, after =>
    let entry := match after with
      | none => t.order.minEntry?
      | some n => t.order.getEntryGT? n
    match entry with
    | none => none
    | some (n, k) => match t.slots.get? k with
      | some slot => if slot.value.isNil then nextSlot t fuel (some n) else some (slot.key, slot.value)
      | none => nextSlot t fuel (some n)

inductive Next where
  | entry (key value : Value)
  | done
  | unknownKey

/-- The entry after a key, or the first one after nil. -/
def next (t : Table) (k : Value) : Next :=
  let fromSlots (after : Option Nat) : Next :=
    match t.nextSlot (t.order.size + 1) after with
    | some (k, v) => .entry k v
    | none => .done
  let fromItem (p : Nat) : Next :=
    match t.nextItem (t.items.size + 1) p with
    | some (k, v) => .entry k v
    | none => fromSlots none
  match k with
  | .nil => fromItem 0
  | k => match k.key? with
    | none => .unknownKey
    | some key =>
      let inArray := match key with
        | .int i => t.position? i
        | _ => none
      match inArray with
      | some p => fromItem (p + 1)
      | none => match t.slots.get? key with
        | some slot => fromSlots (some slot.number)
        | none => .unknownKey

end Table

end KernelConfig.Script
