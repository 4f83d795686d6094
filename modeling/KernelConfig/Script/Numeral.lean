import KernelConfig.Decimal.Notation
import KernelConfig.Script.Value

/-!
Numbers of the scripting language as text: which texts denote an integer or a float, and how a
number is written.
-/

set_option autoImplicit false

namespace KernelConfig.Script

def isSpace (b : UInt8) : Bool := b == 32 || (9 ≤ b && b ≤ 13)

def isDigit (b : UInt8) : Bool := 48 ≤ b && b ≤ 57

def isLetter (b : UInt8) : Bool := (65 ≤ b && b ≤ 90) || (97 ≤ b && b ≤ 122)

/-- Bytes that begin a name. -/
def isNameStart (b : UInt8) : Bool := isLetter b || b == 95

def isNamePart (b : UInt8) : Bool := isNameStart b || isDigit b

def hexDigit? (b : UInt8) : Option Nat :=
  if isDigit b then some (b.toNat - 48)
  else if 97 ≤ b && b ≤ 102 then some (b.toNat - 87)
  else if 65 ≤ b && b ≤ 70 then some (b.toNat - 55)
  else none

def isHexDigit (b : UInt8) : Bool := (hexDigit? b).isSome

def trimSpaces (s : Bytes) : Bytes := ((s.dropWhile isSpace).reverse.dropWhile isSpace).reverse

def decimalValue (s : Bytes) : Nat := s.foldl (fun v b => v * 10 + (b.toNat - 48)) 0

def hexValue (s : Bytes) : Nat := s.foldl (fun v b => v * 16 + (hexDigit? b).getD 0) 0

/-- An exponent after one of the two letters; its absence is zero. -/
def exponent? (lower upper : UInt8) : Bytes → Option Int
  | [] => some 0
  | e :: rest =>
    if e == lower || e == upper then
      let (negative, ds) := match rest with
        | 45 :: ds => (true, ds)
        | 43 :: ds => (false, ds)
        | ds => (false, ds)
      if ds.isEmpty || !ds.all isDigit then none
      else some (if negative then -(decimalValue ds : Int) else decimalValue ds)
    else none

/-- Digits with an optional point among them: the digits before it, those after it, and the rest. -/
def splitPoint (isDig : UInt8 → Bool) (s : Bytes) : Bytes × Bytes × Bytes :=
  let whole := s.takeWhile isDig
  match s.dropWhile isDig with
  | 46 :: rest => (whole, rest.takeWhile isDig, rest.dropWhile isDig)
  | rest => (whole, [], rest)

def decimalFloat? (s : Bytes) : Option Double :=
  let (whole, fraction, rest) := splitPoint isDigit s
  if whole.isEmpty && fraction.isEmpty then none
  else (exponent? 101 69 rest).map fun e =>
    Double.ofDecimal (decimalValue (whole ++ fraction)) (e - fraction.length)

def hexFloat? (s : Bytes) : Option Double :=
  let (whole, fraction, rest) := splitPoint isHexDigit s
  if whole.isEmpty && fraction.isEmpty then none
  else (exponent? 112 80 rest).map fun e =>
    Double.ofBinary (hexValue (whole ++ fraction)) (e - 4 * fraction.length)

/-- The number that a text without sign and blanks denotes. Hexadecimal integers wrap around; a
decimal integer that does not fit is a float. -/
def unsignedNumber? (negative : Bool) (s : Bytes) : Option Value :=
  let hex := match s with
    | 48 :: x :: rest => if x == 120 || x == 88 then some rest else none
    | _ => none
  match hex with
  | some digits =>
    if !digits.isEmpty && digits.all isHexDigit then
      let i := Int64.ofNat (hexValue digits)
      some (.int (if negative then -i else i))
    else (hexFloat? digits).map fun x => .float (x.withSign negative)
  | none =>
    let fits := !s.isEmpty && s.all isDigit
      && decimalValue s ≤ (if negative then 2 ^ 63 else 2 ^ 63 - 1)
    if fits then
      some (.int (Int64.ofInt (if negative then -(decimalValue s : Int) else decimalValue s)))
    else (decimalFloat? s).map fun x => .float (x.withSign negative)

/-- The number that a text denotes, blanks around it ignored. -/
def number? (s : Bytes) : Option Value :=
  match trimSpaces s with
  | 45 :: rest => unsignedNumber? true rest
  | 43 :: rest => unsignedNumber? false rest
  | rest => unsignedNumber? false rest

def intText (i : Int64) : String := Text.signedDecimal i.toInt

/-- Floats are written with fifteen digits if those read back and with seventeen if not; a whole one keeps a point. -/
def floatText (x : Double) : String :=
  let layout (count : Nat) : Decimal.Layout :=
    { plainBelow := count, pointZero := false, signedNan := true }
  let short := (layout 15).render (Decimal.significant 15) x
  let short :=
    if x.isNan || x.isInfinite then short
    else match number? (bytes short) with
      | some (.float y) => if y.eq x then short else (layout 17).render (Decimal.significant 17) x
      | some (.int i) =>
        if (Double.ofInt i.toInt).eq x then short
        else (layout 17).render (Decimal.significant 17) x
      | _ => short
  if short.toList.all fun c => c == '-' || (48 ≤ c.toNat && c.toNat ≤ 57) then short ++ ".0" else short

end KernelConfig.Script
