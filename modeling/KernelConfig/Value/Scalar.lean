import KernelConfig.Decimal.Read
import KernelConfig.Fault.Shape
import KernelConfig.Text.Lines
import KernelConfig.Value.NumberLiteral

/-!
Scalars where a truth value, a number or a text is asked for. Readings are lax: the words for yes
and no are truth values, numerals and whole floats are integers, and truth values are numbers.
-/

set_option autoImplicit false

namespace KernelConfig

inductive Scalar where
  | bool (b : Bool)
  | int (i : Int)
  | float (x : Double)
  | text (s : String)
  deriving DecidableEq, Repr

/-- The integers of signed 64-bit words. -/
def isWordSized (i : Int) : Bool := -(2 ^ 63) ≤ i && i < 2 ^ 63

/-- A sign, digits with single underscores between them, and a fraction of zeros. -/
def integerOfText? (s : List Char) : Option Int :=
  let (negative, body) := match s with
    | '-' :: rest => (true, rest)
    | '+' :: rest => (false, rest)
    | rest => (false, rest)
  let digits := body.takeWhile (· ≠ '.')
  let fraction := (body.dropWhile (· ≠ '.')).drop 1
  let grouped (a b : Char) := a = '_' && b = '_'
  if digits.head? = some '_' || digits.getLast? = some '_' || (digits.zip digits.tail).any fun p => grouped p.1 p.2
  then none
  else
    let digits := digits.filter (· ≠ '_')
    if digits.isEmpty || !digits.all Decimal.isDigit || !fraction.all (· = '0') then none
    else
      let n : Int := Decimal.numeralValue digits
      some (if negative then -n else n)

namespace Scalar

def toText? : Option Scalar → Except Misfit String
  | some (text s) => .ok s
  | _ => .error .notAText

def falseWords : List String := ["0", "f", "n", "no", "off", "false"]

def trueWords : List String := ["1", "t", "y", "on", "yes", "true"]

def toBool? : Option Scalar → Except Misfit Bool
  | some (bool b) => .ok b
  | some (text s) =>
    let word := s.map Char.toLower
    if falseWords.contains word then .ok false
    else if trueWords.contains word then .ok true
    else .error .unreadableBool
  | some (int i) => numeric (some i)
  | some (float x) => numeric x.toInt?
  | none => .error .notABool
where
  numeric : Option Int → Except Misfit Bool
    | some 0 => .ok false
    | some 1 => .ok true
    | some i => .error (if isWordSized i then .unreadableBool else .notABool)
    | none => .error .notABool

def toInt? : Option Scalar → Except Misfit Int
  | some (bool b) => .ok (if b then 1 else 0)
  | some (int i) => .ok i
  | some (float x) =>
    if !x.isFinite then .error .notFinite
    else match x.toInt? with
      | none => .error .fractional
      | some i => if isWordSized i then .ok i else .error .oversizedInteger
  | some (text s) =>
    let s := NumberLiteral.trim s.toList
    if 4300 < s.length then .error .oversizedInteger
    else match integerOfText? s with
      | some i => .ok i
      | none => .error .unreadableInteger
  | none => .error .notAnInteger

def toFloat? : Option Scalar → Except Misfit Double
  | some (bool b) => .ok (Double.ofInt (if b then 1 else 0))
  | some (int i) =>
    let x := Double.ofInt i
    if x.isFinite then .ok x else .error .notAFloat
  | some (float x) => .ok x
  | some (text s) => match Decimal.double? (NumberLiteral.trim s.toList) with
    | some x => .ok x
    | none => .error .unreadableFloat
  | none => .error .notAFloat

end Scalar

end KernelConfig
