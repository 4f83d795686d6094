import KernelConfig.Decimal.Select

/-!
The layout of decimal digits: with a point in place or with an exponent, as a record of decisions.
-/

set_option autoImplicit false

namespace KernelConfig.Decimal

/-- Numbers whose leading digit has an exponent from `plainFrom` to below `plainBelow` are written
with the point in place, others with a signed exponent of at least two digits. -/
structure Layout where
  plainFrom : Int := -4
  plainBelow : Int
  /-- Whether a whole number in place is followed by a point and a zero. -/
  pointZero : Bool := true
  /-- Whether the sign of an invalid number is written. -/
  signedNan : Bool := false

def zeros (n : Nat) : List Char := List.replicate n '0'

/-- An exponent with its sign and at least two digits. -/
def exponentText (e : Int) : List Char :=
  let ds := Text.numeral 10 e.natAbs
  (if e < 0 then '-' else '+') :: (if ds.length < 2 then '0' :: ds else ds)

def pointed (whole fraction : List Char) : List Char :=
  if fraction.isEmpty then whole else whole ++ '.' :: fraction

/-- Digits laid out without sign, from a decimal without trailing zeros. -/
def Layout.unsigned (l : Layout) (s : Scientific) : List Char :=
  let ds := Text.numeral 10 s.digits
  let lead : Int := s.exponent + ds.length - 1
  if l.plainFrom ≤ lead && lead < l.plainBelow then
    if 0 ≤ s.exponent then
      ds ++ zeros s.exponent.toNat ++ (if l.pointZero then ['.', '0'] else [])
    else if 0 ≤ lead then pointed (ds.take (lead.toNat + 1)) (ds.drop (lead.toNat + 1))
    else '0' :: '.' :: zeros (-lead - 1).toNat ++ ds
  else pointed (ds.take 1) (ds.drop 1) ++ 'e' :: exponentText lead

def Layout.render (l : Layout) (choose : Double → Scientific) (x : Double) : String :=
  let sign := if x.isNegative && (l.signedNan || !x.isNan) then "-" else ""
  let body :=
    if x.isNan then "nan"
    else if x.isInfinite then "inf"
    else String.ofList (l.unsigned (stripZeros 400 (choose x)))
  sign ++ body

/-- Numbers in messages: the fewest digits that read back, in place below ten to the sixteenth. -/
def shortestLayout : Layout := { plainBelow := 16 }

def shortestText (x : Double) : String := shortestLayout.render shortest x

/-- At most `count` significant digits, in place below ten to that power, without trailing zeros. -/
def generalText (count : Nat) (x : Double) : String :=
  Layout.render { plainBelow := count, pointZero := false } (significant count) x

/-- The digits of a finite number's size with exactly `places` digits after the point. -/
def fixedUnsigned (places : Nat) (x : Double) : List Char :=
  let (num, den) := x.sizeRatio
  let ds := Text.numeral 10 (Double.roundDiv (num * 10 ^ places) den)
  let ds := zeros (places + 1 - ds.length) ++ ds
  pointed (ds.take (ds.length - places)) (ds.drop (ds.length - places))

/-- Rounding can carry into one digit more, which moves into the exponent. -/
def carried (count : Nat) (s : Scientific) : Scientific :=
  if s.digits = 10 ^ count then ⟨s.digits / 10, s.exponent + 1⟩ else s

/-- One digit, a point, `places` digits and an exponent. -/
def scientificUnsigned (places : Nat) (x : Double) : List Char :=
  let s := carried (places + 1) (significant (places + 1) x)
  let ds := Text.numeral 10 s.digits
  let ds := ds ++ zeros (places + 1 - ds.length)
  let lead := if s.digits = 0 then 0 else s.exponent + places
  pointed (ds.take 1) (ds.drop 1) ++ 'e' :: exponentText lead

/-- `count` significant digits with trailing zeros kept, in place or with an exponent. -/
def generalPadded (count : Nat) (x : Double) : List Char :=
  let s := carried count (significant count x)
  let lead : Int := if s.digits = 0 then 0 else s.exponent + count - 1
  if -4 ≤ lead && lead < count then fixedUnsigned (count - 1 - lead).toNat x
  else scientificUnsigned (count - 1) x

end KernelConfig.Decimal
