import KernelConfig.Proofs.Apply.Replies
import KernelConfig.Proofs.Apply.Steps

/-!
What a context notes while a call is served: the first fatal fault of a capability, and that the
deadline is found to be over. Both are read off the steps of the call.
-/

set_option autoImplicit false

namespace KernelConfig.Context

open Script

/-- The fatal fault with which the capability ends that the script uses here. -/
def fatalAt (w : Surroundings) (c : Context) (m : Machine) : Option Fault :=
  match m.focus with
  | .asking name arguments => match Capability.ofGuestName? name, m.data arguments with
    | some what, .ok data =>
      Apply.fatalOf? (Apply.use w c.caller what data { c.shared with ticks := m.ticks }).1
    | _, _ => none
  | _ => none

/-- Whether the script is told here that its time is over. -/
def lateAt (w : Surroundings) (c : Context) (m : Machine) : Bool :=
  match m.focus with
  | .asking name arguments => match w.settings.scriptTimeout, m.data arguments with
    | some limit, .ok _ => name = deadlineName && !withinTime limit (m.ticks - c.startTicks)
    | _, _ => false
  | _ => false

section

variable {w : Surroundings} {c c' : Context} {m m' : Machine} {f : Fault}
  {r : Except Value (List Value)}

theorem fatalAt_of_busy (hm : m.focus.isBusy = true) : fatalAt w c m = none := by
  unfold fatalAt
  split
  · rename_i hf
    simp [hf, Focus.isBusy] at hm
  · rfl

theorem lateAt_of_busy (hm : m.focus.isBusy = true) : lateAt w c m = false := by
  unfold lateAt
  split
  · rename_i hf
    simp [hf, Focus.isBusy] at hm
  · rfl

theorem answer_context (w : Surroundings) (c : Context) (m : Machine) (name : String)
    (arguments : List Value) : (answer w c m name arguments).2 =
      (respond w { c with shared := { c.shared with ticks := m.ticks } } m name arguments).2 := by
  unfold answer
  dsimp only
  split <;> rfl

theorem Next.notes (h : Next w c m c' m') : c'.caller = c.caller ∧
    c'.fatal = c.fatal.or (fatalAt w c m) ∧ c'.timedOut = (c.timedOut || lateAt w c m) := by
  cases h with
  | ticked hm =>
    rw [fatalAt_of_busy hm, lateAt_of_busy hm]
    simp
  | @asked name arguments hf =>
    rw [answer_context]
    have hforbidden : ∀ name, (name = "__index" || name = "__newindex") = true →
        Capability.ofGuestName? name = none ∧ name ≠ deadlineName := by
      intro name hname
      rcases Bool.or_eq_true_iff.mp hname with h | h <;>
        exact of_decide_eq_true h ▸ ⟨by decide, by decide⟩
    unfold respond fatalAt lateAt
    simp only [hf]
    split
    · rename_i hname
      obtain ⟨hnone, hdeadline⟩ := hforbidden name hname
      simp only [hnone, hdeadline]
      refine ⟨trivial, by simp, ?_⟩
      split <;> simp
    · cases hdata : m.data arguments with
      | error e => exact ⟨rfl, by simp, by simp⟩
      | ok data =>
        dsimp only
        split
        · rename_i hname
          subst hname
          have hnone : Capability.ofGuestName? deadlineName = none := by decide
          unfold checkDeadline
          cases w.settings.scriptTimeout with
          | none => simp [hnone]
          | some limit =>
            dsimp only
            cases withinTime limit (m.ticks - c.startTicks) <;> simp [hnone]
        · rename_i hname
          have hlate : (match w.settings.scriptTimeout, (Except.ok data : Except Mishap (List Datum)) with
              | some limit, .ok _ =>
                name = deadlineName && !withinTime limit (m.ticks - c.startTicks)
              | _, _ => false) = false := by
            split <;> simp [hname]
          rw [hlate]
          cases Capability.ofGuestName? name with
          | none => simp
          | some what =>
            have huse := Apply.useCapability_eq w
              { c with shared := { c.shared with ticks := m.ticks } } what data
            dsimp only at huse ⊢
            generalize Apply.use w c.caller what data { c.shared with ticks := m.ticks } = result
              at huse ⊢
            rw [huse]
            simp

theorem Steps.fatal (h : Steps w Always c m c' m') (hc : c.fatal = some f) : c'.fatal = some f :=
  h.keeps (I := fun c _ => c.fatal = some f)
    (fun hf hnext => by rw [hnext.notes.2.1, hf, Option.some_or]) hc

theorem Steps.timedOut (h : Steps w Always c m c' m') (hc : c.timedOut = true) :
    c'.timedOut = true :=
  h.keeps (I := fun c _ => c.timedOut = true)
    (fun hf hnext => by rw [hnext.notes.2.2, hf, Bool.true_or]) hc

theorem Steps.caller (h : Steps w Always c m c' m') : c'.caller = c.caller :=
  h.keeps (I := fun c' _ => c'.caller = c.caller)
    (fun hf hnext => by rw [hnext.notes.1, hf]) rfl

end

end KernelConfig.Context
