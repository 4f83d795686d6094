import KernelConfig.Text.Digits

/-!
Bytes and their reading as UTF-8. A byte sequence is cut into pieces, each a character or a run of
bytes that belongs to none; strict reading refuses the first such run, lenient reading replaces it.
-/

set_option autoImplicit false

namespace KernelConfig

abbrev Bytes := List UInt8

namespace Text

def utf8Char (c : Char) : Bytes :=
  let n := c.toNat
  if n < 0x80 then [n.toUInt8]
  else if n < 0x800 then [(0xC0 + n / 64).toUInt8, (0x80 + n % 64).toUInt8]
  else if n < 0x10000 then
    [(0xE0 + n / 4096).toUInt8, (0x80 + n / 64 % 64).toUInt8, (0x80 + n % 64).toUInt8]
  else
    [(0xF0 + n / 262144).toUInt8, (0x80 + n / 4096 % 64).toUInt8, (0x80 + n / 64 % 64).toUInt8,
      (0x80 + n % 64).toUInt8]

def utf8 (s : String) : Bytes := s.toList.flatMap utf8Char

inductive Utf8Reason where
  | invalidStart
  | invalidContinuation
  | unexpectedEnd
  deriving DecidableEq, Repr

/-- A run of bytes that is no character: where it starts, its bytes, and what is wrong with it. -/
structure Utf8Fault where
  position : Nat
  bytes : Bytes
  reason : Utf8Reason
  deriving DecidableEq, Repr

def Utf8Reason.message : Utf8Reason → String
  | .invalidStart => "invalid start byte"
  | .invalidContinuation => "invalid continuation byte"
  | .unexpectedEnd => "unexpected end of data"

def Utf8Fault.message (f : Utf8Fault) : String :=
  let place := match f.bytes with
    | [b] => "byte 0x" ++ String.ofList (paddedHex 2 b.toNat) ++ " in position " ++ decimal f.position
    | bs => "bytes in position " ++ decimal f.position ++ "-" ++ decimal (f.position + bs.length - 1)
  "'utf-8' codec can't decode " ++ place ++ ": " ++ f.reason.message

/-- What a first byte announces: how many bytes follow, and the range of the first of them. -/
def utf8Lead (b : Nat) : Option (Nat × Nat × Nat) :=
  if b < 0x80 then some (0, 0, 0)
  else if b < 0xC2 then none
  else if b < 0xE0 then some (1, 0x80, 0xBF)
  else if b = 0xE0 then some (2, 0xA0, 0xBF)
  else if b = 0xED then some (2, 0x80, 0x9F)
  else if b < 0xF0 then some (2, 0x80, 0xBF)
  else if b = 0xF0 then some (3, 0x90, 0xBF)
  else if b = 0xF4 then some (3, 0x80, 0x8F)
  else if b < 0xF5 then some (3, 0x80, 0xBF)
  else none

/-- How many of the `count` bytes after a first byte continue it, the first within `low` and `high`. -/
def utf8Tail : (count low high : Nat) → Bytes → Nat
  | 0, _, _, _ => 0
  | _, _, _, [] => 0
  | count + 1, low, high, b :: rest =>
    if low ≤ b.toNat && b.toNat ≤ high then utf8Tail count 0x80 0xBF rest + 1 else 0

/-- The bits of a first byte that belong to the code point, by the number of bytes that follow. -/
def utf8LeadBits (count b : Nat) : Nat :=
  match count with
  | 0 => b
  | 1 => b % 32
  | 2 => b % 16
  | _ => b % 8

inductive Utf8Piece where
  | char (c : Char)
  | bad (fault : Utf8Fault)
  deriving DecidableEq, Repr

/-- The first piece of a non-empty byte sequence at `position`, and the number of its bytes less one. -/
def utf8Piece (position : Nat) (b : UInt8) (rest : Bytes) : Utf8Piece × Nat :=
  match utf8Lead b.toNat with
  | none => (.bad ⟨position, [b], .invalidStart⟩, 0)
  | some (count, low, high) =>
    let got := utf8Tail count low high rest
    let tail := rest.take got
    if got = count then
      (.char (Char.ofNat (tail.foldl (fun v t => v * 64 + t.toNat % 64) (utf8LeadBits count b.toNat))),
        got)
    else if got = rest.length then (.bad ⟨position, b :: tail, .unexpectedEnd⟩, got)
    else (.bad ⟨position, b :: tail, .invalidContinuation⟩, got)

def utf8PiecesFrom : (fuel position : Nat) → Bytes → List Utf8Piece
  | 0, _, _ => []
  | _, _, [] => []
  | fuel + 1, position, b :: rest =>
    let (piece, more) := utf8Piece position b rest
    piece :: utf8PiecesFrom fuel (position + more + 1) (rest.drop more)

def utf8Pieces (bytes : Bytes) : List Utf8Piece := utf8PiecesFrom bytes.length 0 bytes

def charsOfPieces : List Utf8Piece → Except Utf8Fault (List Char)
  | [] => .ok []
  | .bad f :: _ => .error f
  | .char c :: rest => match charsOfPieces rest with
    | .ok cs => .ok (c :: cs)
    | .error f => .error f

/-- Strict reading: the first run of bytes that is no character is a fault. -/
def decodeUtf8 (bytes : Bytes) : Except Utf8Fault String :=
  (charsOfPieces (utf8Pieces bytes)).map String.ofList

/-- Lenient reading: each run of bytes that is no character becomes the replacement character. -/
def decodeUtf8Lossy (bytes : Bytes) : String :=
  String.ofList ((utf8Pieces bytes).map fun
    | .char c => c
    | .bad _ => '\ufffd')

end Text

end KernelConfig
