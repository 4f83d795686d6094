import Mathlib.Data.List.Basic
import KernelConfig.Script.Machine

/-!
Ticks: a transition that executes many instructions does what as many transitions do that execute one
instruction each. The time until the hook is called is counted the same way.
-/

set_option autoImplicit false

namespace KernelConfig.Script

/-- What the next instruction of a function does. -/
def Activation.step (s : Store) (a : Activation) : Step :=
  match a.function.ops[a.pc]? with
  | none => .ret s a []
  | some op => Step.instruction s { a with pc := a.pc + 1 } op.instr

theorem execute_succ (n : Nat) (s : Store) (a : Activation) :
    execute (n + 1) s a = match a.step s with
      | .next s a => execute n s a
      | step => (n, step) := by
  rw [execute, Activation.step]
  cases a.function.ops[a.pc]? <;> rfl

theorem execute_le (n : Nat) (s : Store) (a : Activation) : (execute n s a).1 ≤ n := by
  induction n generalizing s a with
  | zero => exact Nat.le_refl 0
  | succ n ih =>
    rw [execute_succ]
    split
    · exact Nat.le_succ_of_le (ih _ _)
    · exact Nat.le_succ n

namespace Machine

/-- A transition that executes one instruction at most. -/
def tick (m : Machine) : Machine := m.advanceBy 1

theorem advance_eq_tick {m : Machine} (h : m.focus ≠ .script) : m.advance = m.tick := by
  unfold advance tick advanceBy
  split <;> first | contradiction | rfl

section

variable {m : Machine}

theorem tick_deliver {vs : List Value} (hf : m.focus = .deliver vs) : m.tick = m.deliver vs := by
  simp only [tick, advanceBy, hf]

theorem tick_raise {v : Value} (hf : m.focus = .raise v) : m.tick = m.raise v := by
  simp only [tick, advanceBy, hf]

theorem tick_unwind {v : Value} (hf : m.focus = .unwind v) : m.tick = m.unwind v := by
  simp only [tick, advanceBy, hf]

theorem tick_finished {r : Except Value (List Value)} (hf : m.focus = .finished r) : m.tick = m := by
  simp only [tick, advanceBy, hf]

end

/-- The hook of the thread that is being run. -/
def hook (m : Machine) : Option Hook := (m.thread m.current).hook

theorem executed_zero (m : Machine) : m.executed 0 = m := by
  have hthreads : (m.executed 0).threads = m.threads := by
    ext k hk hk'
    · simp [executed]
    · simp only [executed, Array.getElem_modify]
      rcases m.threads[k] with ⟨state, _ | h⟩ <;> simp
  cases m
  simpa [executed] using hthreads

theorem executed_executed (m : Machine) (i j : Nat) :
    (m.executed i).executed j = m.executed (i + j) := by
  have hthreads : ((m.executed i).executed j).threads = (m.executed (i + j)).threads := by
    ext k hk hk'
    · simp [executed]
    · simp only [executed, Array.getElem_modify]
      split
      · simp [Nat.sub_sub, Function.comp_def]
      · rfl
  cases m
  simp only [executed, Machine.mk.injEq, true_and, and_true] at hthreads ⊢
  exact ⟨hthreads, by omega⟩

theorem hook_executed (m : Machine) (n : Nat) :
    (m.executed n).hook = m.hook.map fun h => { h with left := h.left - n } := by
  unfold hook thread executed
  simp only [Array.getD_eq_getD_getElem?, Array.getElem?_modify]
  cases m.threads[m.current]? with
  | none => rfl
  | some t => simp

/-! ### Running a function of a script -/

theorem runFor_eq (m : Machine) (n : Nat) (a : Activation) (rest : List Frame) :
    m.runFor n a rest =
      (({ m with store := {}, frames := [] } : Machine).executed
        (n - (execute n m.store a).1)).afterStep rest (execute n m.store a).2 := rfl

theorem runFor_zero (m : Machine) (a : Activation) (rest : List Frame) :
    m.runFor 0 a rest = { m with frames := .script a :: rest, focus := .script } := by
  rw [runFor_eq, Nat.zero_sub, executed_zero]
  rfl

/-- Executes one instruction, and so many more if the function goes on. -/
theorem runFor_succ (m : Machine) (n : Nat) (a : Activation) (rest : List Frame) :
    m.runFor (n + 1) a rest = match a.step m.store with
      | .next s a => ({ m with store := s }.executed 1).runFor n a rest
      | step => (({ m with store := {}, frames := [] } : Machine).executed 1).afterStep rest step := by
  rw [runFor_eq, execute_succ]
  cases a.step m.store with
  | next s a =>
    have hle := execute_le n s a
    have hcount : n + 1 - (execute n s a).1 = 1 + (n - (execute n s a).1) := by omega
    dsimp only
    rw [hcount, ← executed_executed]
    rfl
  | _ =>
    dsimp only
    rw [Nat.add_sub_cancel_left]

theorem runFor_one (m : Machine) (a : Activation) (rest : List Frame) :
    m.runFor 1 a rest =
      (({ m with store := {}, frames := [] } : Machine).executed 1).afterStep rest
        (a.step m.store) := by
  rw [runFor_succ]
  cases a.step m.store with
  | next s a => exact runFor_zero _ a rest
  | _ => rfl

/-- What a function on top is, and what is below it. -/
structure IsOnTop (m : Machine) (a : Activation) (rest : List Frame) : Prop where
  focus : m.focus = .script
  frames : m.frames = .script a :: rest

/-- Whether so many instructions can be executed before the hook is called. -/
def HasTime (m : Machine) (n : Nat) : Prop := ∀ h, m.hook = some h → m.inHook = true ∨ n ≤ h.left

variable {m : Machine} {a : Activation} {rest : List Frame}

theorem advanceBy_of_time (limit : Nat) (hm : m.IsOnTop a rest) (ht : m.HasTime 1) :
    ∃ n, m.advanceBy limit = m.runFor n a rest ∧ m.HasTime n ∧ (limit = 1 → n = 1) := by
  unfold advanceBy runScript
  simp only [hm.focus, hm.frames]
  cases hh : (m.thread m.current).hook with
  | none => exact ⟨limit, rfl, fun h hh' => by simp [hook, hh] at hh', id⟩
  | some h =>
    rcases ht h hh with hin | hleft
    · refine ⟨limit, by simp [hin], fun _ _ => .inl hin, id⟩
    · have hne : h.left ≠ 0 := by omega
      refine ⟨if m.inHook then limit else min limit h.left, by simp [hne], ?_, ?_⟩
      · intro h' hh'
        cases hh.symm.trans hh'
        cases m.inHook
        · exact .inr (Nat.min_le_right limit h.left)
        · exact .inl rfl
      · rintro rfl
        split <;> omega

theorem tick_of_time (hm : m.IsOnTop a rest) (ht : m.HasTime 1) : m.tick = m.runFor 1 a rest := by
  obtain ⟨n, h, -, hn⟩ := advanceBy_of_time 1 hm ht
  rw [tick, h, hn rfl]

theorem tick_of_no_time (hm : m.IsOnTop a rest) (ht : ¬ m.HasTime 1) :
    ∃ h, m.hook = some h ∧ m.tick = m.callHook h ∧ m.advance = m.callHook h := by
  simp only [HasTime, not_forall, not_or] at ht
  obtain ⟨h, hh, hin, hleft⟩ := ht
  have hzero : h.left = 0 := by omega
  have hhook : (m.thread m.current).hook = some h := hh
  refine ⟨h, hh, ?_, ?_⟩ <;>
    simp [advance, tick, advanceBy, hm.focus, hm.frames, hhook, hzero, hin]

section Property

variable {R : Machine → Prop} (hR : ∀ m : Machine, m.focus = .script → (R m ↔ R m.tick))

include hR

theorem iff_runFor {n : Nat} (hm : m.IsOnTop a rest) (ht : m.HasTime n) :
    R m ↔ R (m.runFor n a rest) := by
  induction n generalizing m a with
  | zero =>
    have hself : m.runFor 0 a rest = m := by
      rw [runFor_zero, ← hm.focus, ← hm.frames]
    rw [hself]
  | succ n ih =>
    have ht1 : m.HasTime 1 := fun h hh => (ht h hh).imp_right fun hle => by omega
    rw [hR m hm.focus, tick_of_time hm ht1, runFor_succ, runFor_succ]
    cases a.step m.store with
    | next s a' =>
      dsimp only
      rw [runFor_zero]
      refine (ih ⟨rfl, rfl⟩ ?_).trans ?_
      · intro h hh
        have hh' : ({ m with store := s }.executed 1 : Machine).hook = some h := hh
        rw [hook_executed] at hh'
        cases hold : m.hook with
        | none =>
          have : ({ m with store := s } : Machine).hook = none := hold
          simp [this] at hh'
        | some h₀ =>
          have : ({ m with store := s } : Machine).hook = some h₀ := hold
          rw [this] at hh'
          cases hh'
          exact (ht h₀ hold).imp_right fun hle => by simp only; omega
      · have hfocus : ({ m with store := s }.executed 1 : Machine).focus = .script := hm.focus
        rw [← hfocus]
        rfl
    | _ => rfl

/-- What one instruction neither brings about nor undoes, a transition does not either. -/
theorem iff_advance (hm : m.focus = .script) : R m ↔ R m.advance := by
  by_cases htop : ∃ a rest, m.frames = .script a :: rest
  · obtain ⟨a, rest, hframes⟩ := htop
    by_cases ht : m.HasTime 1
    · obtain ⟨n, hadvance, htime, -⟩ := advanceBy_of_time slice ⟨hm, hframes⟩ ht
      rw [advance, hadvance]
      exact iff_runFor hR ⟨hm, hframes⟩ htime
    · obtain ⟨h, -, htick, hadvance⟩ := tick_of_no_time ⟨hm, hframes⟩ ht
      rw [hadvance, ← htick]
      exact hR m hm
  · have hsame : m.advance = m.tick := by
      unfold advance tick advanceBy
      simp only [hm]
      split
      · rename_i a rest hframes
        exact absurd ⟨a, rest, hframes⟩ htop
      · rfl
    rw [hsame]
    exact hR m hm

end Property

end Machine

end KernelConfig.Script
