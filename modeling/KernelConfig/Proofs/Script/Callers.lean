import KernelConfig.Proofs.Script.Tables
import KernelConfig.Script.Library

/-!
Callers: what the library tells a function about the functions that have called it, and what is left of
the name of a chunk without its mark.
-/

set_option autoImplicit false

namespace KernelConfig.Script.Library

open Pattern

/-- The table that describes the source of a level. -/
def sourceTable (s : Store) (l : Level) : Table := sourceFields s l {}

theorem get_sourceTable (s : Store) (l : Level) :
    (sourceTable s l).get (.string (bytes "source")) = .string (l.source s) := by
  have hshort : bytes "source" ≠ bytes "short_src" := by decide
  have hdefined : bytes "source" ≠ bytes "linedefined" := by decide
  have hlast : bytes "source" ≠ bytes "lastlinedefined" := by decide
  have hwhat : bytes "source" ≠ bytes "what" := by decide
  simp only [sourceTable, sourceFields, Table.setText, Value.text, Table.get_set_string, hshort, hdefined,
    hlast, hwhat, if_true, if_false]

/-- What a function gets that asks for the source of the function four levels up. -/
theorem task_getinfo (s : Store) :
    ∃ k, (Library.task .debugGetinfo [.int 4, .text "S"]).run s = .levels s none k ∧
      (∀ levels : List Level, levels[4]? = none → k s levels = .done s [.nil]) ∧
      ∀ (levels : List Level) l, levels[4]? = some l →
        k s levels = .done (s.addTable (sourceTable s l)).1 [.table s.tables.size] := by
  have hlevel : (4 : Int64).toInt.toNat = 4 := rfl
  have hnonneg : ¬ (4 : Int64).toInt < 0 := by decide
  refine ⟨_, rfl, fun levels h => ?_, fun levels l h => ?_⟩
  all_goals
    dsimp only
    rw [if_neg hnonneg, hlevel, h]
    rfl

/-- What a function gets that asks for a traceback from there. -/
theorem task_tracebackFrom (s : Store) :
    ∃ k, (Library.task .debugTraceback [.nil, .int 4]).run s = .levels s none k ∧
      ∀ levels, k s levels = .done s [.string (tracebackText s levels 4)] :=
  ⟨_, rfl, fun _ => rfl⟩

/-- The place of a level at the beginning of a message. -/
def placeText (s : Store) : Option Level → Bytes
  | some l => match l.line with
    | some line => positionText (l.source s) line ++ bytes " "
    | none => []
  | none => []

/-- An error with a text gets the place of the function that many levels up. -/
theorem task_error (message : Bytes) {level : Int64} (hlevel : 0 < level) (s : Store) :
    ∃ k, (Library.task .error [.string message, .int level]).run s = .levels s none k ∧
      ∀ levels : List Level, k s levels =
        .raise s (.string (placeText s levels[level.toInt.toNat]? ++ message)) := by
  have hrun : (Library.task .error [.string message, .int level]).run s =
      (if 0 < level then do Task.raise (.string ((← whereText level.toInt.toNat) ++ message))
        else Task.raise (.string message) : Task (List Value)) s fun s vs => .done s vs := rfl
  rw [hrun, if_pos hlevel]
  refine ⟨_, rfl, fun levels => ?_⟩
  dsimp only
  cases levels[level.toInt.toNat]? with
  | none => rfl
  | some l =>
    dsimp only
    cases hline : l.line with
    | none => simp only [placeText, hline]; rfl
    | some line => simp only [placeText, hline]; rfl

/-! ### The mark of a chunk's name -/

/-- The name of a chunk without the mark that says what it is. -/
def unmarked : Bytes → Bytes
  | 64 :: name => name
  | 61 :: name => name
  | source => source

theorem unmarked_cons (b : UInt8) (rest : Bytes) :
    unmarked (b :: rest) = if b == 64 || b == 61 then rest else b :: rest := by
  unfold unmarked
  split
  · next h =>
    cases h
    rfl
  · next h =>
    cases h
    rfl
  · next hat heq =>
    have hb : (b == 64 || b == 61) = false := by
      simp only [Bool.or_eq_false_iff, beq_eq_false_iff_ne, ne_eq]
      exact ⟨fun hb => hat rest (by rw [hb]), fun hb => heq rest (by rw [hb])⟩
    rw [hb]
    rfl

/-- The pattern of a mark at the beginning. -/
def markPattern : Array UInt8 := #[94, 91, 64, 61, 93]

theorem matchesItem_mark (b : UInt8) (rest : Bytes) :
    matchesItem ⟨(b :: rest).toArray, markPattern⟩ 0 1 5 = (b == 64 || b == 61) := by
  show (b == 64 || (b == 61 || false)) = _
  rw [Bool.or_false]

theorem run_mark (b : UInt8) (rest : Bytes) :
    run ⟨(b :: rest).toArray, markPattern⟩ 0 1 =
      .ok (if b == 64 || b == 61 then some ⟨1, #[]⟩ else none) := by
  have hrun : run ⟨(b :: rest).toArray, markPattern⟩ 0 1 =
      (if !matchesItem ⟨(b :: rest).toArray, markPattern⟩ 0 1 5 then return none
      else return some ⟨1, #[]⟩ : Found) := rfl
  rw [hrun, matchesItem_mark]
  cases b == 64 || b == 61 <;> rfl

/-- Replacing the mark by nothing leaves the name. -/
theorem task_unmark (s : Store) (source : Bytes) (hlength : source.length + 1 < 2 ^ 63) :
    ∃ n, (Library.task .stringGsub [.string source, .text "^[@=]", .text ""]).run s =
      .done s [.string (unmarked source), n] := by
  have hlimit : ¬ (Int64.ofNat (source.length + 1)).toInt ≤ (0 : Nat) := by
    rw [Int64.toInt_ofNat_of_lt hlength]
    omega
  have hgsub : (Library.task .stringGsub [.string source, .text "^[@=]", .text ""]).run s =
      replaceFrom ⟨source.toArray, markPattern⟩ 1 true (.string [])
        (Int64.ofNat (source.length + 1)).toInt (2 * source.length + 2 + 1) 0 none 0 [] s
        (fun s r => Act.done s [.string r.1.reverse.flatten, whole r.2]) := rfl
  rw [hgsub, replaceFrom, if_neg hlimit]
  cases source with
  | nil => exact ⟨_, rfl⟩
  | cons b rest =>
    let m : Subject := ⟨(b :: rest).toArray, markPattern⟩
    rw [run_mark, unmarked_cons]
    cases b == 64 || b == 61 with
    | false =>
      have hleft : [between m 0 (b :: rest).length].reverse.flatten = b :: rest := by
        simp [between, m]
      refine ⟨whole 0, ?_⟩
      show Act.done s [.string [between m 0 (b :: rest).length].reverse.flatten, whole 0] = _
      rw [hleft]
      rfl
    | true =>
      have hleft : [between m 1 rest.length, []].reverse.flatten = rest := by
        simp [between, m, Nat.add_comm]
      refine ⟨whole 1, ?_⟩
      show Act.done s [.string [between m 1 rest.length, []].reverse.flatten, whole 1] = _
      rw [hleft]
      rfl

end KernelConfig.Script.Library
