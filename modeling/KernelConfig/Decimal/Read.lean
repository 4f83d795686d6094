import KernelConfig.Decimal.Double
import KernelConfig.Text.Case
import KernelConfig.Text.Digits

/-!
Reading decimal numbers with a point and an exponent.
-/

set_option autoImplicit false

namespace KernelConfig.Decimal

def isDigit (c : Char) : Bool := '0' ≤ c && c ≤ '9'

/-- The value of a numeral in ASCII digits. -/
def numeralValue (s : List Char) : Nat := Text.digitsValue 10 (s.map fun c => c.toNat - 48)

/-- An exponent after its letter; no exponent at all is zero. -/
def exponentOf : List Char → Option Int
  | [] => some 0
  | e :: rest =>
    if e = 'e' || e = 'E' then
      let (negative, ds) := match rest with
        | '-' :: ds => (true, ds)
        | '+' :: ds => (false, ds)
        | ds => (false, ds)
      if ds.isEmpty || !ds.all isDigit then none
      else some (if negative then -numeralValue ds else numeralValue ds)
    else none

/-- Digits with an optional point among them and an optional exponent, as digits and a power of ten. -/
def unsignedOf (s : List Char) : Option (Nat × Int) :=
  let whole := s.takeWhile isDigit
  let rest := s.dropWhile isDigit
  let (fraction, rest) := match rest with
    | '.' :: more => (more.takeWhile isDigit, more.dropWhile isDigit)
    | _ => ([], rest)
  if whole.isEmpty && fraction.isEmpty then none
  else (exponentOf rest).map fun e => (numeralValue (whole ++ fraction), e - fraction.length)

def unsignedDouble? (s : List Char) : Option Double :=
  (unsignedOf s).map fun (digits, e) => Double.ofDecimal digits e

/-- A number with an optional sign, infinity or NaN. -/
def double? (s : List Char) : Option Double :=
  let (negative, body) := match s with
    | '-' :: rest => (true, rest)
    | '+' :: rest => (false, rest)
    | _ => (false, s)
  let word := body.map Char.toLower
  let size :=
    if word = "inf".toList || word = "infinity".toList then some Double.infinity
    else if word = "nan".toList then some (Double.nan.negate)
    else unsignedDouble? body
  size.map (·.withSign negative)

end KernelConfig.Decimal
