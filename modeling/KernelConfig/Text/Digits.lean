/-!
Numerals: the digits of a natural number in a base, and the value of a list of digits.
-/

set_option autoImplicit false

-- Powers are the numbers' own, also where an algebra is imported that has powers for all its monoids.
attribute [instance (20000), default_instance 20000] instPowNat

namespace KernelConfig.Text

def digitChar (d : Nat) : Char :=
  if d < 10 then Char.ofNat (48 + d) else Char.ofNat (87 + d)

/-- The value of an ASCII digit in a base of at most sixteen; letters are digits in either case. -/
def digitOf? (base : Nat) (c : Char) : Option Nat :=
  let value :=
    if '0' ≤ c && c ≤ '9' then c.toNat - 48
    else if 'a' ≤ c && c ≤ 'f' then c.toNat - 87
    else if 'A' ≤ c && c ≤ 'F' then c.toNat - 55
    else base
  if value < base then some value else none

/-- Digits from the least significant one; `fuel` bounds their number. -/
def digitsRev (base : Nat) : (fuel n : Nat) → List Nat
  | 0, _ => []
  | fuel + 1, n => if n < base then [n] else n % base :: digitsRev base fuel (n / base)

/-- The digits of `n` in a base of at least two, most significant first. -/
def digits (base n : Nat) : List Nat := (digitsRev base (n.log2 + 1) n).reverse

def numeral (base n : Nat) : List Char := (digits base n).map digitChar

def digitsValue (base : Nat) (ds : List Nat) : Nat := ds.foldl (fun v d => v * base + d) 0

def decimal (n : Nat) : String := String.ofList (numeral 10 n)

def signedDecimal (i : Int) : String :=
  if i < 0 then "-" ++ decimal i.natAbs else decimal i.natAbs

def hexadecimal (n : Nat) : String := String.ofList ('0' :: 'x' :: numeral 16 n)

/-- A lower-case hexadecimal numeral filled with zeros on the left up to `width` digits. -/
def paddedHex (width n : Nat) : List Char :=
  let ds := numeral 16 n
  List.replicate (width - ds.length) '0' ++ ds

end KernelConfig.Text
