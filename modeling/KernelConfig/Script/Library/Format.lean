import KernelConfig.Script.Library.Strings

/-!
Formatted text: conversions of values with flags, a width and a precision.
-/

set_option autoImplicit false

namespace KernelConfig.Script.Library

structure Conversion where
  left : Bool := false
  plus : Bool := false
  space : Bool := false
  alternate : Bool := false
  zero : Bool := false
  width : Nat := 0
  precision : Option Nat := none

namespace Conversion

/-- At most two digits. -/
def twoDigits (s : Bytes) : Bytes × Bytes :=
  let ds := (s.take 2).takeWhile isDigit
  (ds, s.drop ds.length)

/-- Reads the part of a conversion between the percent sign and the letter; `none` if it has more
than the given flags, a width of two digits and, where it may, a precision of two digits. -/
def read? (flags : String) (withPrecision : Bool) (s : Bytes) : Option Conversion :=
  let allowed := bytes flags
  let fs := s.takeWhile allowed.contains
  let has (c : Char) : Bool := fs.contains c.toNat.toUInt8
  let rest := s.drop fs.length
  let (ws, rest) := if rest.head? == some 48 then ([], rest) else twoDigits rest
  let c : Conversion := {
    left := has '-', plus := has '+', space := has ' ', alternate := has '#', zero := has '0'
    width := decimalValue ws }
  match rest with
  | [] => some c
  | 46 :: rest =>
    let (ps, rest) := twoDigits rest
    if withPrecision && rest.isEmpty then some { c with precision := some (decimalValue ps) } else none
  | _ => none

/-- Fills a body up to the width: with blanks, or with zeros after the sign. -/
def fill (c : Conversion) (zeros : Bool) (sign body : Bytes) : Bytes :=
  let missing := c.width - (sign.length + body.length)
  if c.left then sign ++ body ++ List.replicate missing 32
  else if zeros then sign ++ List.replicate missing 48 ++ body
  else List.replicate missing 32 ++ sign ++ body

def sign (c : Conversion) (negative : Bool) : Bytes :=
  if negative then [45] else if c.plus then [43] else if c.space then [32] else []

/-- The digits of a whole number with at least as many as the precision asks for. -/
def wholeDigits (c : Conversion) (base n : Nat) : Bytes :=
  let ds := if n = 0 && c.precision == some 0 then []
    else bytes (String.ofList (Text.numeral base n))
  List.replicate (c.precision.getD 1 - ds.length) 48 ++ ds

def signed (c : Conversion) (i : Int) : Bytes :=
  c.fill (c.zero && c.precision.isNone) (c.sign (i < 0)) (c.wholeDigits 10 i.natAbs)

def unsigned (c : Conversion) (base : Nat) (upper : Bool) (n : Nat) : Bytes :=
  let ds := c.wholeDigits base n
  let ds := if base = 8 && c.alternate && ds.head? != some 48 then 48 :: ds else ds
  let lead := if base = 16 && c.alternate && n ≠ 0 then bytes "0x" else []
  let text := c.fill (c.zero && c.precision.isNone) lead ds
  if upper then text.map upperByte else text

/-- Removes the zeros at the end of a fraction, and the point if nothing else is left. -/
def trimFraction (s : List Char) : List Char :=
  if s.contains '.' then
    let t := (s.reverse.dropWhile (· = '0')).reverse
    if t.getLast? = some '.' then t.dropLast else t
  else s

def trimGeneral (s : List Char) : List Char :=
  let mantissa := s.takeWhile (· ≠ 'e')
  trimFraction mantissa ++ s.drop mantissa.length

/-- A point after the digits before the exponent. -/
def withPoint (s : List Char) : List Char :=
  if s.contains '.' then s
  else
    let mantissa := s.takeWhile (· ≠ 'e')
    mantissa ++ '.' :: s.drop mantissa.length

/-- A finite number in hexadecimal digits, its exponent a power of two. -/
def hexadecimalUnsigned (precision : Option Nat) (x : Double) : List Char :=
  let lead := if x.exponentField = 0 then 0 else 1
  let exponent : Int :=
    if x.significand = 0 then 0 else (max x.exponentField 1 : Nat) - 1023
  let whole := lead * 2 ^ 52 + x.fractionField
  let (head, fraction) := match precision with
    | none => (lead, (((Text.paddedHex 13 x.fractionField).reverse.dropWhile (· = '0')).reverse))
    | some p =>
      if 13 ≤ p then (lead, Text.paddedHex 13 x.fractionField ++ List.replicate (p - 13) '0')
      else
        let n := Double.roundDiv whole (16 ^ (13 - p))
        (n / 16 ^ p, if p = 0 then [] else Text.paddedHex p (n % 16 ^ p))
  let mark := if exponent < 0 then '-' else '+'
  Decimal.pointed ('0' :: 'x' :: Text.numeral 10 head) fraction
    ++ 'p' :: mark :: Text.numeral 10 exponent.natAbs

/-- A float under the conversion letter in lower case. -/
def float (c : Conversion) (letter : UInt8) (upper : Bool) (x : Double) : Bytes :=
  let sign := c.sign x.isNegative
  let text :=
    if x.isNan then c.fill false sign (bytes "nan")
    else if x.isInfinite then c.fill false sign (bytes "inf")
    else
      let precision := c.precision.getD 6
      let digits :=
        if letter == 102 then Decimal.fixedUnsigned precision x
        else if letter == 101 then Decimal.scientificUnsigned precision x
        else if letter == 103 then
          let ds := Decimal.generalPadded (max precision 1) x
          if c.alternate then ds else trimGeneral ds
        else hexadecimalUnsigned c.precision x
      let digits := if c.alternate && letter != 97 then withPoint digits else digits
      if letter == 97 then c.fill c.zero (sign ++ bytes "0x") (bytes (String.ofList (digits.drop 2)))
      else c.fill c.zero sign (bytes (String.ofList digits))
  if upper then text.map upperByte else text

end Conversion

/-- A string in quotes as source text. -/
def quotedBytes : Bytes → Bytes
  | [] => []
  | b :: rest =>
    let tail := quotedBytes rest
    if b == 34 || b == 92 || b == 10 then 92 :: b :: tail
    else if b < 32 || b == 127 then
      let ds := bytes (Text.decimal b.toNat)
      let filled := if (rest.head?.map isDigit).getD false then
          List.replicate (3 - ds.length) 48 ++ ds else ds
      92 :: filled ++ tail
    else b :: tail

/-- A value as source text, for the values that have one. -/
def literal? (v : Value) : Option Bytes :=
  match v with
  | .nil => some (bytes "nil")
  | .bool b => some (bytes (if b then "true" else "false"))
  | .string s => some (34 :: quotedBytes s ++ [34])
  | .int i =>
    if i == Int64.minValue then some (bytes "0x8000000000000000") else some (bytes (intText i))
  | .float x =>
    if x.isNan then some (bytes "(0/0)")
    else if x.isInfinite then some (bytes (if x.isNegative then "-1e9999" else "1e9999"))
    else some (({} : Conversion).float 97 false x)
  | _ => none

def pointerText (v : Value) : Bytes :=
  match v with
  | .nil | .bool _ | .int _ | .float _ => bytes "(null)"
  | .string s => bytes (address 6 s.length)
  | v => (referenceText "" v).drop 2

def conversionFault {α : Type} (form : Bytes) : Task α :=
  Task.fail (bytes "invalid conversion specification: '%" ++ form ++ bytes "'")

/-- One conversion; `form` is all of it after the percent sign. -/
def convert (args : List Value) (n : Nat) (form : Bytes) : Task Bytes := do
  let letter := form.getLastD 0
  let middle := form.dropLast
  let reading (flags : String) (withPrecision : Bool) : Task Conversion :=
    match Conversion.read? flags withPrecision middle with
    | some c => return c
    | none => conversionFault form
  let upper := isLetter letter && letter < 97
  let lower := lowerByte letter
  if letter == 99 then do
    let i ← checkInt args n
    let c ← reading "-" false
    return c.fill false [] [i.toUInt64.toUInt8]
  else if letter == 100 || letter == 105 then do
    let i ← checkInt args n
    return (← reading "-+0 " true).signed i.toInt
  else if letter == 117 then do
    let i ← checkInt args n
    return (← reading "-0" true).unsigned 10 false i.toUInt64.toNat
  else if letter == 111 || lower == 120 then do
    let i ← checkInt args n
    return (← reading "-#0" true).unsigned (if letter == 111 then 8 else 16) upper i.toUInt64.toNat
  else if lower == 97 || lower == 101 || letter == 102 || lower == 103 then do
    let x ← checkFloat args n
    return (← reading "-+#0 " true).float lower upper x
  else if letter == 112 then do
    let c ← reading "-" false
    return c.fill false [] (pointerText (argument args n))
  else if letter == 113 then
    if middle.isEmpty then
      match literal? (argument args n) with
      | some t => return t
      | none => badValue n "value has no literal form"
    else Task.failText "specifier '%q' cannot have modifiers"
  else if letter == 115 then do
    let s ← textOf (argument args n)
    if middle.isEmpty then return s
    else if s.contains 0 then badValue n "string contains zeros"
    else
      let c ← reading "-" true
      match c.precision with
      | none => if 100 ≤ s.length then return s else return c.fill false [] s
      | some p => return c.fill false [] (s.take p)
  else Task.fail (bytes "invalid conversion '%" ++ form ++ bytes "' to 'format'")

/-- The bytes that flags, width and precision can have. -/
def conversionBytes : Bytes := bytes "-+#0 123456789."

/-- The pieces of a format, last one first; `n` is the number of the last argument used. -/
def formatPieces (args : List Value) : (fuel n : Nat) → Bytes → List Bytes → Task (List Bytes)
  | 0, _, _, pieces => return pieces
  | fuel + 1, n, s, pieces =>
    match s with
    | [] => return pieces
    | 37 :: 37 :: rest => formatPieces args fuel n rest ([37] :: pieces)
    | 37 :: rest => do
      let n := n + 1
      if args.length < n then badValue n "no value"
      else
        let middle := rest.takeWhile conversionBytes.contains
        if 22 ≤ middle.length + 1 then Task.failText "invalid format string to 'format'"
        else
          let form := rest.take (middle.length + 1)
          let piece ← convert args n form
          formatPieces args fuel n (rest.drop form.length) (piece :: pieces)
    | s =>
      let plain := s.takeWhile (· != 37)
      formatPieces args fuel n (s.drop plain.length) (plain :: pieces)

def stringFormat (args : List Value) : Task (List Value) := do
  let format ← checkString args 1
  let pieces ← formatPieces args (format.length + 1) 1 format []
  return [.string pieces.reverse.flatten]

end KernelConfig.Script.Library
