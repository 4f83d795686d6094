import KernelConfig.Decimal.Double
import KernelConfig.Text.Digits

/-!
Decimal digits of a binary number: the fewest that read back to it, or a given number of them.
Both are chosen by exact arithmetic on natural numbers.
-/

set_option autoImplicit false

namespace KernelConfig.Decimal

/-- `digits * 10 ^ exponent`. -/
structure Scientific where
  digits : Nat
  exponent : Int
  deriving DecidableEq, Repr

/-- `num / den` divided by `10 ^ e`, as numerator and denominator. -/
def unscaleTen (num den : Nat) (e : Int) : Nat × Nat :=
  if e < 0 then (num * 10 ^ (-e).toNat, den) else (num, den * 10 ^ e.toNat)

/-- The least `k`, from `k` on, with `num / den < 10 ^ k`; `fuel` bounds the search. -/
def magnitudeFrom (num den : Nat) : (fuel : Nat) → Int → Int
  | 0, k => k
  | fuel + 1, k =>
    let (n, d) := unscaleTen num den k
    if n < d then k else magnitudeFrom num den fuel (k + 1)

/-- The number of digits before the point of a positive quotient, negative for leading zeros after it. -/
def magnitude (num den : Nat) : Int :=
  magnitudeFrom num den 6 (((num.log2 : Int) - den.log2 - 1) * 30103 / 100000 - 1)

/-- The reals that read as a number `x`, as numerators over a common denominator, and whether the ends belong to them. -/
structure Interval where
  low : Nat
  value : Nat
  high : Nat
  den : Nat
  closed : Bool

def Interval.of (x : Double) : Interval :=
  let m := x.significand
  let q := x.scale - 2
  let up := 2 ^ q.toNat
  { low := (if x.narrowBelow then 4 * m - 1 else 4 * m - 2) * up
    value := 4 * m * up
    high := (4 * m + 2) * up
    den := 2 ^ (-q).toNat
    closed := m % 2 = 0 }

/-- Whether `d * 10 ^ e` lies among the reals that read as the number. -/
def Interval.contains (i : Interval) (d : Nat) (e : Int) : Bool :=
  let up := 10 ^ e.toNat
  let down := 10 ^ (-e).toNat
  let point := d * up * i.den
  if i.closed then i.low * down ≤ point && point ≤ i.high * down
  else i.low * down < point && point < i.high * down

/-- The neighbour of the value on the grid of `10 ^ e` that reads back, the nearer one if both do. -/
def Interval.onGrid (i : Interval) (e : Int) : Option Nat :=
  let (n, d) := unscaleTen i.value i.den e
  let below := n / d
  match i.contains below e, i.contains (below + 1) e with
  | true, true => some (Double.roundDiv n d)
  | true, false => some below
  | false, true => some (below + 1)
  | false, false => none

def Interval.search (i : Interval) (k : Int) : (fuel count : Nat) → Option Scientific
  | 0, _ => none
  | fuel + 1, count =>
    match i.onGrid (k - count) with
    | some d => some ⟨d, k - count⟩
    | none => i.search k fuel (count + 1)

def stripZeros : (fuel : Nat) → Scientific → Scientific
  | 0, s => s
  | fuel + 1, s =>
    if s.digits ≠ 0 && s.digits % 10 = 0 then stripZeros fuel ⟨s.digits / 10, s.exponent + 1⟩ else s

/-- A finite number rounded to `count` significant digits; a tie goes to the even digit. -/
def significant (count : Nat) (x : Double) : Scientific :=
  let (num, den) := x.sizeRatio
  if num = 0 then ⟨0, 0⟩
  else
    let e := magnitude num den - count
    let (n, d) := unscaleTen num den e
    ⟨Double.roundDiv n d, e⟩

/-- The fewest digits that read back to a finite number, and of those the nearest to it. -/
def shortest (x : Double) : Scientific :=
  if x.significand = 0 then ⟨0, 0⟩
  else
    let i := Interval.of x
    match i.search (magnitude i.value i.den) 17 1 with
    | some s => stripZeros 400 s
    | none => stripZeros 400 (significant 17 x)

end KernelConfig.Decimal
