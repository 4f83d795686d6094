import KernelConfig.Script.Library.Arguments

/-!
Functions on numbers, and the generator of random ones.
-/

set_option autoImplicit false

namespace KernelConfig.Script.Library

def viaFloat (f : Float → Float) (args : List Value) : Task (List Value) := do
  return [.float (Double.fromOperation (f (← checkFloat args 1).toFloat))]

/-- A whole float as an integer, if it fits. -/
def wholeValue (x : Double) : Value :=
  match floatToInt? x with
  | some i => .int i
  | none => .float x

def rounded (f : Double → Double) (args : List Value) : Task (List Value) := do
  match ← checkNumber args 1 with
  | .float x => return [wholeValue (f x)]
  | v => return [v]

def mathAbs (args : List Value) : Task (List Value) := do
  match ← checkNumber args 1 with
  | .int i => return [.int (if i < 0 then -i else i)]
  | .float x => return [.float (x.negate.withSign (!x.isNegative))]
  | v => return [v]

def mathAtan (args : List Value) : Task (List Value) := do
  let y ← checkFloat args 1
  let x ← if isAbsent args 2 then pure (Double.ofNat 1) else checkFloat args 2
  return [.float (Double.fromOperation (Float.atan2 y.toFloat x.toFloat))]

def mathFmod (args : List Value) : Task (List Value) := do
  match ← checkNumber args 1, ← checkNumber args 2 with
  | .int a, .int b =>
    if b == 0 then badValue 2 "zero" else return [.int (Int64.ofInt (Int.tmod a.toInt b.toInt))]
  | a, b =>
    return [.float (((toFloat? a).getD Double.zero).remainder ((toFloat? b).getD Double.zero))]

def mathLog (args : List Value) : Task (List Value) := do
  let x := (← checkFloat args 1).toFloat
  let r ← if isAbsent args 2 then pure (Float.log x) else do
    let base := (← checkFloat args 2).toFloat
    if base == 2.0 then pure (Float.log2 x)
    else if base == 10.0 then pure (Float.log10 x)
    else pure (Float.log x / Float.log base)
  return [.float (Double.fromOperation r)]

/-- The argument that no other one beats. -/
def extreme (beats : Value → Value → Bool) (args : List Value) : (n count : Nat) → Value → Task Value
  | _, 0, best => return best
  | n, count + 1, best => do
    let v ← checkNumber args n
    extreme beats args (n + 1) count (if beats v best then v else best)

def mathExtreme (beats : Value → Value → Bool) (args : List Value) : Task (List Value) := do
  let first ← checkNumber args 1
  return [← extreme beats args 2 (args.length - 1) first]

def mathModf (args : List Value) : Task (List Value) := do
  match ← checkNumber args 1 with
  | .float x =>
    if x.isInfinite then return [.float x, .float Double.zero]
    else
      let n := if x.isNegative then x.ceil else x.floor
      return [.float n, .float (x.sub n)]
  | .int i => return [.float (Double.ofInt i.toInt), .float Double.zero]
  | v => return [v]

def mathFrexp (args : List Value) : Task (List Value) := do
  let x ← checkFloat args 1
  if !x.isFinite || x.significand = 0 then return [.float x, .int 0]
  else
    let e := (x.significand.log2 : Int) + 1
    let m := (Double.ofBinary x.significand (-e)).withSign x.isNegative
    return [.float m, .int (Int64.ofInt (e + x.scale))]

def mathLdexp (args : List Value) : Task (List Value) := do
  let x ← checkFloat args 1
  let e := (← checkInt args 2).toInt
  if !x.isFinite then return [.float x]
  else return [.float ((Double.ofBinary x.significand (x.scale + e)).withSign x.isNegative)]

def mathTointeger (args : List Value) : Task (List Value) := do
  match toInt? (argument args 1) with
  | some i => return [.int i]
  | none =>
    checkAny args 1
    return [.nil]

def mathType (args : List Value) : Task (List Value) := do
  match argument args 1 with
  | .int _ => return [.text "integer"]
  | .float _ => return [.text "float"]
  | _ =>
    checkAny args 1
    return [.nil]

def mathUlt (args : List Value) : Task (List Value) := do
  let a ← checkInt args 1
  let b ← checkInt args 2
  return flag (a.toUInt64 < b.toUInt64)

/-! ### Random numbers -/

abbrev RandomState := UInt64 × UInt64 × UInt64 × UInt64

def rotateLeft (x n : UInt64) : UInt64 := (x <<< n) ||| (x >>> (64 - n))

def nextRandom (r : RandomState) : UInt64 × RandomState :=
  let (a, b, c, d) := r
  let c' := c ^^^ a
  let d' := d ^^^ b
  (rotateLeft (b * 5) 7 * 9, (a ^^^ d', b ^^^ c', c' ^^^ (b <<< 17), rotateLeft d' 45))

def skipRandom : (n : Nat) → RandomState → RandomState
  | 0, r => r
  | n + 1, r => skipRandom n (nextRandom r).2

def seeded (a b : UInt64) : RandomState := skipRandom 16 (a, 255, b, 0)

/-- The mask of all bits up to the highest one of a number. -/
def maskOver (n : UInt64) : UInt64 := ((2 : Nat) ^ (n.toNat.log2 + 1) - 1).toUInt64

/-- A number not above `limit`: others that the mask lets through are passed over. -/
def project (limit : UInt64) : (fuel : Nat) → UInt64 → RandomState → UInt64 × RandomState
  | 0, _, r => (0, r)
  | fuel + 1, x, r =>
    let masked := x &&& maskOver limit
    if masked ≤ limit then (masked, r)
    else
      let (x, r) := nextRandom r
      project limit fuel x r

def mathRandom (args : List Value) : Task (List Value) := do
  let s ← Task.store
  let (x, r) := nextRandom s.random
  Task.setStore { s with random := r }
  let between (low high : Int64) (n : Nat) : Task (List Value) := do
    if low ≤ high then
      let (y, r) := project (high.toUInt64 - low.toUInt64) 10000 x r
      Task.modifyStore fun s => { s with random := r }
      return [.int (y + low.toUInt64).toInt64]
    else badValue n "interval is empty"
  match args.length with
  | 0 => return [.float (Double.ofRatio (x >>> 11).toNat (2 ^ 53))]
  | 1 =>
    let high ← checkInt args 1
    if high == 0 then return [.int x.toInt64] else between 1 high 1
  | 2 => between (← checkInt args 1) (← checkInt args 2) 2
  | _ => Task.failText "wrong number of arguments"

def mathRandomseed (args : List Value) : Task (List Value) := do
  let (a, b) ← if args.isEmpty then pure ((0 : Int64), (0 : Int64)) else do
    let a ← match ← checkNumber args 1 with
      | .float x => pure ((floatToInt? x).getD x.bits.toInt64)
      | v => pure ((numberToInt? v).getD 0)
    pure (a, ← optInt args 2 0)
  Task.modifyStore fun s => { s with random := seeded a.toUInt64 b.toUInt64 }
  return [.int a, .int b]

end KernelConfig.Script.Library
