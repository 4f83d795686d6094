import KernelConfig.Script.Numeral

/-!
Patterns: which part of a string a pattern matches, and what its captures hold. Repetitions try the
longest match first, or the shortest one for a lazy repetition, and give back what the rest of the
pattern needs.
-/

set_option autoImplicit false

namespace KernelConfig.Script.Pattern

inductive Capture where
  | unfinished (start : Nat)
  | position (start : Nat)
  | closed (start length : Nat)
  deriving DecidableEq, Repr

/-- A match up to a position, with its captures in order. -/
structure Match where
  stop : Nat
  captures : Array Capture

structure Subject where
  source : Array UInt8
  pattern : Array UInt8

abbrev Found := Except String (Option Match)

namespace Subject

def sourceAt (m : Subject) (s : Nat) : UInt8 := m.source.getD s 0

def patternAt (m : Subject) (p : Nat) : UInt8 := m.pattern.getD p 0

end Subject

def isPunctuation (b : UInt8) : Bool :=
  (33 ≤ b && b ≤ 47) || (58 ≤ b && b ≤ 64) || (91 ≤ b && b ≤ 96) || (123 ≤ b && b ≤ 126)

def isControl (b : UInt8) : Bool := b < 32 || b == 127

def isLower (b : UInt8) : Bool := 97 ≤ b && b ≤ 122

def isUpper (b : UInt8) : Bool := 65 ≤ b && b ≤ 90

/-- The class that a letter names; a capital names what is outside the class, and any other byte is itself. -/
def inClass (b cls : UInt8) : Bool :=
  let named (c : UInt8) : Option Bool :=
    match Char.ofNat c.toNat with
    | 'a' => some (isLetter b)
    | 'c' => some (isControl b)
    | 'd' => some (isDigit b)
    | 'g' => some (33 ≤ b && b ≤ 126)
    | 'l' => some (isLower b)
    | 'p' => some (isPunctuation b)
    | 's' => some (isSpace b)
    | 'u' => some (isUpper b)
    | 'w' => some (isLetter b || isDigit b)
    | 'x' => some (isHexDigit b)
    | _ => none
  let lower := if isUpper cls then cls + 32 else cls
  match named lower with
  | some r => if isUpper cls then !r else r
  | none => b == cls

/-- Whether a byte is in the set whose members stand before `stop`. -/
def inMembers (m : Subject) (b : UInt8) (stop : Nat) : (fuel p : Nat) → Bool
  | 0, _ => false
  | fuel + 1, p =>
    if stop ≤ p then false
    else
      let c := m.patternAt p
      if c == 37 then inClass b (m.patternAt (p + 1)) || inMembers m b stop fuel (p + 2)
      else if m.patternAt (p + 1) == 45 && p + 2 < stop then
        (c ≤ b && b ≤ m.patternAt (p + 2)) || inMembers m b stop fuel (p + 3)
      else b == c || inMembers m b stop fuel (p + 1)

/-- Whether a byte is in the set from its opening bracket at `p` to its closing one at `stop`. -/
def inSet (m : Subject) (b : UInt8) (p stop : Nat) : Bool :=
  if m.patternAt (p + 1) == 94 then !inMembers m b stop (m.pattern.size + 1) (p + 2)
  else inMembers m b stop (m.pattern.size + 1) (p + 1)

/-- The end of a set whose first member stands at `p`. -/
def setEnd (m : Subject) : (fuel p : Nat) → Except String Nat
  | 0, _ => .error "malformed pattern (missing ']')"
  | fuel + 1, p =>
    if m.pattern.size ≤ p then .error "malformed pattern (missing ']')"
    else
      let q := if m.patternAt p == 37 then (if p + 1 < m.pattern.size then p + 2 else p + 1) else p + 1
      if q < m.pattern.size && m.patternAt q == 93 then .ok (q + 1) else setEnd m fuel q

/-- The end of the single item at `p`. -/
def itemEnd (m : Subject) (p : Nat) : Except String Nat :=
  let c := m.patternAt p
  if c == 37 then
    if m.pattern.size ≤ p + 1 then .error "malformed pattern (ends with '%')" else .ok (p + 2)
  else if c == 91 then
    setEnd m (m.pattern.size + 1) (if m.patternAt (p + 1) == 94 then p + 2 else p + 1)
  else .ok (p + 1)

/-- Whether the byte at `s` matches the single item from `p` to `stop`. -/
def matchesItem (m : Subject) (s p stop : Nat) : Bool :=
  if m.source.size ≤ s then false
  else
    let b := m.sourceAt s
    let c := m.patternAt p
    if c == 46 then true
    else if c == 37 then inClass b (m.patternAt (p + 1))
    else if c == 91 then inSet m b p (stop - 1)
    else c == b

/-- How many bytes from `s` on match an item. -/
def countItems (m : Subject) (p stop : Nat) : (fuel s : Nat) → Nat
  | 0, _ => 0
  | fuel + 1, s => if matchesItem m s p stop then countItems m p stop fuel (s + 1) + 1 else 0

/-- Tries a continuation after `count` items and then after fewer and fewer. -/
def longestFirst (rest : Nat → Found) (s : Nat) : (count : Nat) → Found
  | 0 => rest s
  | count + 1 => do
    match ← rest (s + count + 1) with
    | some r => return some r
    | none => longestFirst rest s count

/-- Tries a continuation after no item and then after more and more. -/
def shortestFirst (m : Subject) (p stop : Nat) (rest : Nat → Found) : (fuel s : Nat) → Found
  | 0, _ => return none
  | fuel + 1, s => do
    match ← rest s with
    | some r => return some r
    | none =>
      if matchesItem m s p stop then shortestFirst m p stop rest fuel (s + 1) else return none

/-- The end of a balanced text that begins before `s`, at a depth of nesting. -/
def balancedEnd (m : Subject) (opening closing : UInt8) : (fuel depth s : Nat) → Option Nat
  | 0, _, _ => none
  | fuel + 1, depth, s =>
    if m.source.size ≤ s then none
    else
      let c := m.sourceAt s
      if c == closing then
        if depth = 1 then some (s + 1) else balancedEnd m opening closing fuel (depth - 1) (s + 1)
      else if c == opening then balancedEnd m opening closing fuel (depth + 1) (s + 1)
      else balancedEnd m opening closing fuel depth (s + 1)

/-- The last capture that is not finished. -/
def lastUnfinished (cs : Array Capture) : Option (Nat × Nat) :=
  cs.toList.zipIdx.foldl (fun r e => match e.1 with
    | .unfinished start => some (e.2, start)
    | _ => r) none

def sameBytes (m : Subject) (a b : Nat) : (length : Nat) → Bool
  | 0 => true
  | n + 1 => m.sourceAt a == m.sourceAt b && sameBytes m (a + 1) (b + 1) n

/-- The start and length of what a back reference refers to; a position has no text. -/
def referenced (cs : Array Capture) (digit : UInt8) : Except String (Option (Nat × Nat)) :=
  let capture? := if digit < 49 then none else cs[digit.toNat - 49]?
  match capture? with
  | some (.closed start length) => .ok (some (start, length))
  | some (.position _) => .ok none
  | _ => .error ("invalid capture index %" ++ Text.decimal (digit.toNat - 48))

/-- The match of a pattern from `p` on at `s`; `depth` bounds how deep repetitions and captures are nested. -/
def matchAt (m : Subject) : (fuel depth s p : Nat) → Array Capture → Found
  | 0, _, _, _, _ => .error "pattern too complex"
  | fuel + 1, depth, s, p, cs =>
    if m.pattern.size ≤ p then return some ⟨s, cs⟩
    else
      let deeper (s p : Nat) (cs : Array Capture) : Found :=
        if depth = 0 then .error "pattern too complex" else matchAt m fuel (depth - 1) s p cs
      let item : Found := do
        let stop ← itemEnd m p
        let suffix := m.patternAt stop
        if suffix == 42 then
          longestFirst (deeper · (stop + 1) cs) s (countItems m p stop (m.source.size + 1) s)
        else if suffix == 45 then
          shortestFirst m p stop (deeper · (stop + 1) cs) (m.source.size + 2) s
        else if suffix == 63 then
          if matchesItem m s p stop then
            match ← deeper (s + 1) (stop + 1) cs with
            | some r => return some r
            | none => matchAt m fuel depth s (stop + 1) cs
          else matchAt m fuel depth s (stop + 1) cs
        else if !matchesItem m s p stop then return none
        else if suffix == 43 then
          longestFirst (deeper · (stop + 1) cs) (s + 1)
            (countItems m p stop (m.source.size + 1) (s + 1))
        else matchAt m fuel depth (s + 1) stop cs
      let opening (c : Capture) (p : Nat) : Found :=
        if 32 ≤ cs.size then .error "too many captures" else deeper s p (cs.push c)
      match Char.ofNat (m.patternAt p).toNat with
      | '(' =>
        if m.patternAt (p + 1) == 41 then opening (.position s) (p + 2)
        else opening (.unfinished s) (p + 1)
      | ')' => match lastUnfinished cs with
        | none => .error "invalid pattern capture"
        | some (i, start) => deeper s (p + 1) (cs.setIfInBounds i (.closed start (s - start)))
      | '$' =>
        if p + 1 = m.pattern.size then
          return if s = m.source.size then some ⟨s, cs⟩ else none
        else item
      | '%' =>
        let next := m.patternAt (p + 1)
        if next == 98 then
          if m.pattern.size ≤ p + 3 then .error "malformed pattern (missing arguments to '%b')"
          else if m.source.size ≤ s || m.sourceAt s != m.patternAt (p + 2) then return none
          else match balancedEnd m (m.patternAt (p + 2)) (m.patternAt (p + 3)) m.source.size 1 (s + 1) with
            | some s => matchAt m fuel depth s (p + 4) cs
            | none => return none
        else if next == 102 then
          if m.patternAt (p + 2) != 91 then .error "missing '[' after '%f' in pattern"
          else do
            let stop ← itemEnd m (p + 2)
            let before := if s = 0 then 0 else m.sourceAt (s - 1)
            if !inSet m before (p + 2) (stop - 1) && inSet m (m.sourceAt s) (p + 2) (stop - 1) then
              matchAt m fuel depth s stop cs
            else return none
        else if isDigit next then do
          match ← referenced cs next with
          | none => return none
          | some (start, length) =>
            if s + length ≤ m.source.size && sameBytes m start s length then
              matchAt m fuel depth (s + length) (p + 2) cs
            else return none
        else item
      | _ => item

/-- The match of the whole pattern at a position. -/
def run (m : Subject) (s p : Nat) : Found :=
  matchAt m (200 * (m.pattern.size + 2)) 199 s p #[]

/-- The first match from a position on, with where it begins. -/
def search (m : Subject) (p : Nat) (anchored : Bool) : (fuel s : Nat) →
    Except String (Option (Nat × Match))
  | 0, _ => return none
  | fuel + 1, s => do
    match ← run m s p with
    | some r => return some (s, r)
    | none =>
      if anchored || m.source.size ≤ s then return none else search m p anchored fuel (s + 1)

inductive Captured where
  | text (s : Bytes)
  | position (n : Nat)

def between (m : Subject) (start length : Nat) : Bytes :=
  (m.source.extract start (start + length)).toList

def Capture.value (m : Subject) : Capture → Except String Captured
  | unfinished _ => .error "unfinished capture"
  | position s => .ok (.position (s + 1))
  | closed start length => .ok (.text (between m start length))

/-- What a match yields: its captures, or the whole of it if it has none. -/
def captured (m : Subject) (start : Nat) (r : Match) : Except String (List Captured) :=
  if r.captures.isEmpty then .ok [.text (between m start (r.stop - start))]
  else r.captures.toList.mapM (·.value m)

/-- Whether a pattern has no byte with a meaning of its own. -/
def isPlain (pattern : Bytes) : Bool := !pattern.any (bytes "^$*+?.([%-").contains

/-- The first occurrence of a text from a position on. -/
def findPlain (text : Bytes) : (source : Bytes) → (s : Nat) → Option Nat
  | [], s => if text.isEmpty then some s else none
  | b :: rest, s => if text.isPrefixOf (b :: rest) then some s else findPlain text rest (s + 1)

end KernelConfig.Script.Pattern
