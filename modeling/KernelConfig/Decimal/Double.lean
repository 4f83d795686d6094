import KernelConfig.Text.Digits

/-!
Binary floating-point numbers of 64 bits, kept as their bits. A finite one is a signed natural
number times a power of two; sums, products and quotients are the machine's.
-/

set_option autoImplicit false

namespace KernelConfig

structure Double where
  bits : UInt64
  deriving DecidableEq, Repr, Inhabited

namespace Double

def ofFloat (x : Float) : Double := ⟨x.toBits⟩

def toFloat (x : Double) : Float := Float.ofBits x.bits

def isNegative (x : Double) : Bool := x.bits >>> 63 == 1

/-- The biased exponent. -/
def exponentField (x : Double) : Nat := ((x.bits >>> 52) &&& 0x7FF).toNat

def fractionField (x : Double) : Nat := (x.bits &&& 0xFFFFFFFFFFFFF).toNat

def isNan (x : Double) : Bool := x.exponentField == 0x7FF && x.fractionField != 0

def isInfinite (x : Double) : Bool := x.exponentField == 0x7FF && x.fractionField == 0

def isFinite (x : Double) : Bool := x.exponentField != 0x7FF

/-- The significand of a finite number: its size is `significand * 2 ^ scale`. -/
def significand (x : Double) : Nat :=
  if x.exponentField = 0 then x.fractionField else 2 ^ 52 + x.fractionField

def scale (x : Double) : Int := (max x.exponentField 1 : Nat) - 1075

/-- Below a power of two the gap to the next number is half of the gap above it. -/
def narrowBelow (x : Double) : Bool := x.fractionField == 0 && x.exponentField > 1

def negate (x : Double) : Double := ⟨x.bits ^^^ 0x8000000000000000⟩

def withSign (negative : Bool) (x : Double) : Double := if negative then x.negate else x

def zero : Double := ⟨0⟩

def infinity : Double := ⟨0x7FF0000000000000⟩

/-- The result of an invalid operation; its sign bit is set. -/
def nan : Double := ⟨0xFFF8000000000000⟩

/-- A quotient rounded to the nearest natural number, a tie to the even one. -/
def roundDiv (num den : Nat) : Nat :=
  let q := num / den
  let r := num % den
  if 2 * r < den then q else if den < 2 * r then q + 1 else if q % 2 = 0 then q else q + 1

/-- `num / den` as a numerator and a denominator, the value divided by `2 ^ q`. -/
def unscale (num den : Nat) (q : Int) : Nat × Nat :=
  if q < 0 then (num * 2 ^ (-q).toNat, den) else (num, den * 2 ^ q.toNat)

/-- The number nearest to `num / den`, for a positive denominator; a tie goes to the even significand. -/
def ofRatio (num den : Nat) : Double :=
  if num = 0 then zero
  else
    let guess : Int := (num.log2 : Int) - den.log2 - 53
    let (n, d) := unscale num den guess
    let q := max (if n / d < 2 ^ 53 then guess else guess + 1) (-1074)
    let (n, d) := unscale num den q
    let bits := (q + 1074).toNat * 2 ^ 52 + roundDiv n d
    if bits < 0x7FF0000000000000 then ⟨bits.toUInt64⟩ else infinity

def ofNat (n : Nat) : Double := ofRatio n 1

def ofInt (i : Int) : Double := (ofNat i.natAbs).withSign (i < 0)

/-- `digits * 10 ^ exponent`; sizes beyond any finite number are cut off before they are computed. -/
def ofDecimal (digits : Nat) (exponent : Int) : Double :=
  if digits = 0 then zero
  else if exponent > 400 then infinity
  else if exponent < -(400 + (digits.log2 : Int)) then zero
  else if exponent < 0 then ofRatio digits (10 ^ (-exponent).toNat)
  else ofRatio (digits * 10 ^ exponent.toNat) 1

/-- `digits * 2 ^ exponent`. -/
def ofBinary (digits : Nat) (exponent : Int) : Double :=
  if digits = 0 then zero
  else if exponent > 1100 then infinity
  else if exponent < -(1200 + (digits.log2 : Int)) then zero
  else if exponent < 0 then ofRatio digits (2 ^ (-exponent).toNat)
  else ofRatio (digits * 2 ^ exponent.toNat) 1

/-- The value of a finite number as numerator and denominator of its size. -/
def sizeRatio (x : Double) : Nat × Nat :=
  if x.scale < 0 then (x.significand, 2 ^ (-x.scale).toNat)
  else (x.significand * 2 ^ x.scale.toNat, 1)

/-- The integer part of a finite number, rounded toward zero. -/
def truncate (x : Double) : Int :=
  let (n, d) := x.sizeRatio
  let size : Int := (n / d : Nat)
  if x.isNegative then -size else size

def isIntegral (x : Double) : Bool :=
  x.isFinite && (let (n, d) := x.sizeRatio; n % d == 0)

/-- The integer that a number equals, if it equals one. -/
def toInt? (x : Double) : Option Int := if x.isIntegral then some x.truncate else none

/-- The largest integer that is not above a finite number. -/
def floorInt (x : Double) : Int :=
  if x.isNegative && !x.isIntegral then x.truncate - 1 else x.truncate

def fromOperation (x : Float) : Double := if x.isNaN then nan else ofFloat x

def add (x y : Double) : Double := fromOperation (x.toFloat + y.toFloat)
def sub (x y : Double) : Double := fromOperation (x.toFloat - y.toFloat)
def mul (x y : Double) : Double := fromOperation (x.toFloat * y.toFloat)
def div (x y : Double) : Double := fromOperation (x.toFloat / y.toFloat)
def pow (x y : Double) : Double := fromOperation (Float.pow x.toFloat y.toFloat)

/-- The floor of a finite number as a number; a zero keeps its sign. -/
def floor (x : Double) : Double :=
  if x.isFinite && !x.isIntegral then
    let i := x.floorInt
    if i = 0 then zero.withSign x.isNegative else ofInt i
  else x

def ceil (x : Double) : Double := x.negate.floor.negate

/-- The remainder with the sign of `x`, exact for finite numbers. -/
def remainder (x y : Double) : Double :=
  if x.isNan || y.isNan || x.isInfinite || y.significand = 0 then nan
  else if y.isInfinite then x
  else
    let q := min x.scale y.scale
    let a := x.significand * 2 ^ (x.scale - q).toNat
    let b := y.significand * 2 ^ (y.scale - q).toNat
    (ofBinary (a % b) q).withSign x.isNegative

/-- The order of two numbers; a NaN has none. -/
def lt (x y : Double) : Bool := x.toFloat < y.toFloat
def le (x y : Double) : Bool := x.toFloat ≤ y.toFloat
def eq (x y : Double) : Bool := x.toFloat == y.toFloat

end Double

end KernelConfig
