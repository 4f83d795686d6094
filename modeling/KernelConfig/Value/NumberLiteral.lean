import KernelConfig.Text.Blank
import KernelConfig.Text.DecimalDigit
import KernelConfig.Text.Digits

/-!
Number literals: decimal, or hexadecimal after `0x`, with underscores anywhere, in the range of
unsigned 64-bit words.
-/

set_option autoImplicit false

namespace KernelConfig

inductive LiteralFault where
  | malformed
  | negative
  | tooLarge
  deriving DecidableEq, Repr

namespace NumberLiteral

/-- Blanks that may surround a numeral; the information separators may not. -/
def isPadding (c : Char) : Bool := Text.isBlank c && !(0x1C ≤ c.toNat && c.toNat ≤ 0x1F)

def trim (s : List Char) : List Char :=
  ((s.dropWhile isPadding).reverse.dropWhile isPadding).reverse

/-- A decimal numeral of at most 4300 digits. -/
def natural10? (s : List Char) : Option Nat :=
  if s.isEmpty || 4300 < s.length then none
  else (s.mapM Text.digitValue?).map (Text.digitsValue 10)

/-- A hexadecimal numeral, with or without a `0x` of its own. -/
def natural16? (s : List Char) : Option Nat :=
  let ds := match s with
    | z :: x :: rest => if Text.digitValue? z = some 0 && (x = 'x' || x = 'X') then rest else s
    | _ => s
  if ds.isEmpty then none else (ds.mapM Text.hexValue?).map (Text.digitsValue 16)

/-- A numeral with an optional sign and blanks around it. -/
def signed? (natural? : List Char → Option Nat) (s : List Char) : Option Int :=
  match trim s with
  | '+' :: rest => (natural? rest).map Int.ofNat
  | '-' :: rest => (natural? rest).map fun n => -Int.ofNat n
  | rest => (natural? rest).map Int.ofNat

/-- The integer that a literal denotes, of any size. -/
def integer? (s : List Char) : Option Int :=
  match (Text.strip s).filter (· ≠ '_') with
  | '0' :: 'x' :: rest => signed? natural16? rest
  | '0' :: 'X' :: rest => signed? natural16? rest
  | rest => signed? natural10? rest

def parse (s : String) : Except LiteralFault UInt64 :=
  match integer? s.toList with
  | none => .error .malformed
  | some i =>
    if i < 0 then .error .negative
    else if h : i.toNat < 2 ^ 64 then .ok (UInt64.ofNatLT i.toNat h)
    else .error .tooLarge

end NumberLiteral

end KernelConfig
