import KernelConfig.Script.Lexer
import KernelConfig.Script.Library.Strings

/-!
Functions on strings as sequences of encoded characters.
-/

set_option autoImplicit false

namespace KernelConfig.Script.Library

def isContinuation (b : UInt8) : Bool := b &&& 0xC0 == 0x80

/-- How many bytes follow a first byte: its leading one bits after the first. -/
def followers (b : UInt8) : Nat :=
  if b < 0x80 || b &&& 0x40 == 0 then 0
  else if b &&& 0x20 == 0 then 1
  else if b &&& 0x10 == 0 then 2
  else if b &&& 0x08 == 0 then 3
  else if b &&& 0x04 == 0 then 4
  else if b &&& 0x02 == 0 then 5
  else if b &&& 0x01 == 0 then 6 else 7

/-- The least code of an encoding with that many bytes after the first. -/
def leastCode : (followers : Nat) → Nat
  | 0 => 2 ^ 32
  | 1 => 0x80
  | 2 => 0x800
  | 3 => 0x10000
  | 4 => 0x200000
  | _ => 0x4000000

/-- The first character's code and how many bytes it has; unless `lax`, only characters that exist. -/
def decodeFirst (lax : Bool) (s : Bytes) : Option (Nat × Nat) :=
  match s with
  | [] => none
  | b :: rest =>
    if b < 0x80 then some (b.toNat, 1)
    else
      let n := followers b
      let tail := rest.take n
      if n = 0 || 5 < n || tail.length < n || !tail.all isContinuation then none
      else
        let lead := b.toNat % 2 ^ (6 - n)
        let code := tail.foldl (fun v c => v * 64 + c.toNat % 64) lead
        if code < leastCode n then none
        else if !lax && (0x10FFFF < code || (0xD800 ≤ code && code ≤ 0xDFFF)) then none
        else some (code, n + 1)

/-- A position that may be negative, counted from the end, as one from one on; zero is out of the text. -/
def characterPosition (length : Nat) (i : Int) : Int :=
  if 0 ≤ i then i else if (length : Int) < -i then 0 else length + i + 1

def charBytes (args : List Value) : (n count : Nat) → Task Bytes
  | _, 0 => return []
  | n, count + 1 => do
    let code := (← checkInt args n).toInt
    if 0 ≤ code && code < 2 ^ 31 then
      return extendedUtf8 code.toNat ++ (← charBytes args (n + 1) count)
    else badValue n "value out of range"

def utf8Char (args : List Value) : Task (List Value) := do
  return [.string (← charBytes args 1 args.length)]

/-- The codes of the characters that begin at `at_` or before `stop`; a fault leaves the place where it is. -/
def codesFrom (lax : Bool) (stop : Nat) : (fuel at_ : Nat) → Bytes → Except Nat (List Nat)
  | 0, _, _ => .ok []
  | fuel + 1, i, s =>
    if stop ≤ i then .ok []
    else match decodeFirst lax s with
      | none => .error i
      | some (code, n) => (codesFrom lax stop fuel (i + n) (s.drop n)).map (code :: ·)

def utf8Len (args : List Value) : Task (List Value) := do
  let s ← checkString args 1
  let i := characterPosition s.length (← optInt args 2 1).toInt
  let j := characterPosition s.length (← optInt args 3 (-1)).toInt
  if !(1 ≤ i && i ≤ s.length + 1) then badValue 2 "initial position out of bounds"
  else if !(j ≤ s.length) then badValue 3 "final position out of bounds"
  else
    let first := (i - 1).toNat
    match codesFrom (argument args 4).isTruthy j.toNat (s.length + 1) first (s.drop first) with
    | .ok codes => return [whole codes.length]
    | .error at_ => return [.nil, whole (at_ + 1)]

def utf8Codepoint (args : List Value) : Task (List Value) := do
  let s ← checkString args 1
  let i := characterPosition s.length (← optInt args 2 1).toInt
  let j := characterPosition s.length (← optInt args 3 (Int64.ofInt i)).toInt
  if !(1 ≤ i) then badValue 2 "out of bounds"
  else if !(j ≤ s.length) then badValue 3 "out of bounds"
  else
    let first := (i - 1).toNat
    match codesFrom (argument args 4).isTruthy j.toNat (s.length + 1) first (s.drop first) with
    | .ok codes => return codes.map whole
    | .error _ => Task.failText "invalid UTF-8 code"

def utf8CodesStep (lax : Bool) (args : List Value) : Task (List Value) := do
  let s ← checkString args 1
  let n := (← checkInt args 2).toUInt64.toNat
  let rest := s.drop n
  let skipped := rest.takeWhile isContinuation
  let start := if n < s.length then n + skipped.length else n
  match s.drop start with
  | [] => return []
  | rest => match decodeFirst lax rest with
    | none => Task.failText "invalid UTF-8 code"
    | some (code, length) =>
      if ((s.drop (start + length)).head?.map isContinuation).getD false then
        Task.failText "invalid UTF-8 code"
      else return [whole (start + 1), whole code]

def utf8Codes (args : List Value) : Task (List Value) := do
  let lax := (argument args 2).isTruthy
  let s ← checkString args 1
  if (s.head?.map isContinuation).getD false then badValue 1 "invalid UTF-8 code"
  else return [.native (.utf8CodesStep lax), argument args 1, .int 0]

/-- Goes back to the first byte of the character that contains a position. -/
def characterStart (s : Array UInt8) : (i : Nat) → Nat
  | 0 => 0
  | i + 1 => if isContinuation (s.getD (i + 1) 0) then characterStart s i else i + 1

/-- The position `n` characters before one. -/
def charactersBack (s : Array UInt8) : (n i : Nat) → Option Nat
  | 0, i => some i
  | n + 1, i => if i = 0 then none else charactersBack s n (characterStart s (i - 1))

/-- The position `n` characters after one. -/
def charactersOn (s : Array UInt8) : (n i : Nat) → Option Nat
  | 0, i => some i
  | n + 1, i =>
    if s.size ≤ i then none
    else
      let tail := (s.extract (i + 1) s.size).toList.takeWhile isContinuation
      charactersOn s n (i + 1 + tail.length)

def utf8Offset (args : List Value) : Task (List Value) := do
  let s ← checkString args 1
  let n := (← checkInt args 2).toInt
  let default : Int64 := if 0 ≤ n then 1 else Int64.ofNat (s.length + 1)
  let i := characterPosition s.length (← optInt args 3 default).toInt - 1
  if !(0 ≤ i && i ≤ s.length) then badValue 3 "position out of bounds"
  else
    let bytes := s.toArray
    let i := i.toNat
    let extent (p : Nat) : List Value :=
      let tail := (s.drop (p + 1)).takeWhile isContinuation
      [whole (p + 1), whole (p + 1 + tail.length)]
    if n = 0 then return extent (characterStart bytes i)
    else if isContinuation (bytes.getD i 0) then
      Task.failText "initial position is a continuation byte"
    else
      let found := if n < 0 then charactersBack bytes (-n).toNat i
        else charactersOn bytes (n - 1).toNat i
      match found with
      | some p => return extent p
      | none => return [.nil]

end KernelConfig.Script.Library
