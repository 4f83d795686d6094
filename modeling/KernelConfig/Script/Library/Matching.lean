import KernelConfig.Script.Library.Strings
import KernelConfig.Script.Pattern

/-!
Functions on strings that use patterns: searching, iterating over matches, and replacing.
-/

set_option autoImplicit false

namespace KernelConfig.Script.Library

open Pattern

def orFail {α : Type} (r : Except String α) : Task α :=
  match r with
  | .ok a => return a
  | .error message => Task.failText message

def Captured.toValue : Captured → Value
  | .text s => .string s
  | .position n => whole n

def capturedValues (m : Subject) (start : Nat) (r : Match) : Task (List Value) := do
  return (← orFail (captured m start r)).map Captured.toValue

/-- Searches from an initial position on; `positions` says whether the place is wanted besides the captures. -/
def searchString (positions : Bool) (args : List Value) : Task (List Value) := do
  let s ← checkString args 1
  let p ← checkString args 2
  let init := slicePosition s.length (← optInt args 3 1).toInt - 1
  if s.length < init then return [.nil]
  else if positions && ((argument args 4).isTruthy || isPlain p) then
    match findPlain p (s.drop init) init with
    | some i => return [whole (i + 1), whole (i + p.length)]
    | none => return [.nil]
  else
    let m : Subject := ⟨s.toArray, p.toArray⟩
    let anchored := p.head? == some 94
    match ← orFail (search m (if anchored then 1 else 0) anchored (s.length + 2) init) with
    | none => return [.nil]
    | some (start, r) =>
      if positions then
        let cs ← if r.captures.isEmpty then pure [] else capturedValues m start r
        return whole (start + 1) :: whole r.stop :: cs
      else capturedValues m start r

/-- The iterator keeps the place to go on from and the end of the last match in two variables. -/
def gmatch (args : List Value) : Task (List Value) := do
  let s ← checkString args 1
  let p ← checkString args 2
  let init := slicePosition s.length (← optInt args 3 1).toInt - 1
  let (store, cell) := (← Task.store).addCell (whole (min init (s.length + 1)))
  let (store, _) := store.addCell .nil
  Task.setStore store
  return [.native (.gmatchStep s p cell)]

/-- The first match from `s` on that does not end at `last`. -/
def nextMatch (m : Subject) (last : Option Nat) : (fuel s : Nat) → Except String (Option (Nat × Match))
  | 0, _ => return none
  | fuel + 1, s => do
    if m.source.size < s then return none
    else
      match ← run m s 0 with
      | some r => if last == some r.stop then nextMatch m last fuel (s + 1) else return some (s, r)
      | none => nextMatch m last fuel (s + 1)

def cellNat? (s : Store) (cell : Nat) : Option Nat :=
  match s.cell cell with
  | .int i => some i.toInt.toNat
  | _ => none

def gmatchStep (source pattern : Bytes) (cell : Nat) : Task (List Value) := do
  let store ← Task.store
  let m : Subject := ⟨source.toArray, pattern.toArray⟩
  let from_ := (cellNat? store cell).getD 0
  match ← orFail (nextMatch m (cellNat? store (cell + 1)) (source.length + 2) from_) with
  | none => return []
  | some (start, r) =>
    Task.modifyStore fun s =>
      (s.setCell cell (whole r.stop)).setCell (cell + 1) (whole r.stop)
    capturedValues m start r

/-- A replacement text with its captures filled in. -/
def expandReplacement (m : Subject) (start : Nat) (r : Match) : Bytes → Except String Bytes
  | [] => return []
  | 37 :: 37 :: rest => return 37 :: (← expandReplacement m start r rest)
  | 37 :: b :: rest =>
    if b == 48 then do
      return between m start (r.stop - start) ++ (← expandReplacement m start r rest)
    else if isDigit b then do
      let n := b.toNat - 49
      let text ← match r.captures[n]? with
        | some c => match ← c.value m with
          | .text s => pure s
          | .position n => pure (bytes (Text.decimal n))
        | none =>
          if n = 0 then pure (between m start (r.stop - start))
          else .error ("invalid capture index %" ++ Text.decimal (n + 1) ++ " in replacement string")
      return text ++ (← expandReplacement m start r rest)
    else .error "invalid use of '%' in replacement string"
  | [37] => .error "invalid use of '%' in replacement string"
  | b :: rest => return b :: (← expandReplacement m start r rest)

/-- What takes the place of a match; nil and false leave it as it is. -/
def replacement (m : Subject) (by_ : Value) (start : Nat) (r : Match) : Task Bytes := do
  let v ← match by_ with
    | .table _ => Task.index by_ (first (← capturedValues m start r))
    | v =>
      if v.isFunction then do
        let results ← Task.call v (← capturedValues m start r)
        pure (first results)
      else pure (.string (← orFail (expandReplacement m start r ((stringText? v).getD []))))
  if v.isTruthy then
    match stringText? v with
    | some t => return t
    | none => Task.failText ("invalid replacement value (a " ++ v.typeName ++ ")")
  else return between m start (r.stop - start)

/-- Replaces at most `limit` matches; the pieces of the result come last one first. -/
def replaceFrom (m : Subject) (p : Nat) (anchored : Bool) (by_ : Value) (limit : Int) :
    (fuel s : Nat) → (last : Option Nat) → (count : Nat) → (pieces : List Bytes) →
    Task (List Bytes × Nat)
  | 0, _, _, count, pieces => return (pieces, count)
  | fuel + 1, s, last, count, pieces => do
    let tail (at_ : Nat) : Bytes := between m at_ (m.source.size - at_)
    if limit ≤ count then return (tail s :: pieces, count)
    else
      let found ← orFail (run m s p)
      match found.filter fun r => last != some r.stop with
      | some r =>
        let piece ← replacement m by_ s r
        if anchored then
          return (tail r.stop :: piece :: pieces, count + 1)
        else replaceFrom m p anchored by_ limit fuel r.stop (some r.stop) (count + 1) (piece :: pieces)
      | none =>
        if m.source.size ≤ s then return (pieces, count)
        else if anchored then return (tail s :: pieces, count)
        else replaceFrom m p anchored by_ limit fuel (s + 1) last count ([m.sourceAt s] :: pieces)

def gsub (args : List Value) : Task (List Value) := do
  let s ← checkString args 1
  let p ← checkString args 2
  let limit ← optInt args 4 (Int64.ofNat (s.length + 1))
  let by_ := argument args 3
  let fits := match by_ with
    | .int _ | .float _ | .string _ | .table _ => true
    | v => v.isFunction
  if fits then
    let m : Subject := ⟨s.toArray, p.toArray⟩
    let anchored := p.head? == some 94
    let (pieces, count) ←
      replaceFrom m (if anchored then 1 else 0) anchored by_ limit.toInt (2 * s.length + 3) 0 none 0 []
    return [.string pieces.reverse.flatten, whole count]
  else typeError args 3 "string/function/table"

end KernelConfig.Script.Library
