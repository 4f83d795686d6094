import KernelConfig.Proofs.Apply.Stepping
import KernelConfig.Proofs.Script.Ticks

/-!
Serving a call: what can be said of a call's result by following it one instruction and one answer at
a time, whenever its fuel ends.
-/

set_option autoImplicit false

namespace KernelConfig

open Script (Focus Machine Value)

/-- Whether a value is an error of the host. -/
def Script.Value.isFailure : Value → Bool
  | .host (.failure _) => true
  | _ => false

/-- Whether the machine goes on by itself. -/
def Script.Focus.isBusy : Focus → Bool
  | asking .. | finished _ => false
  | _ => true

namespace Context

section Leads

variable (w : Surroundings) (L : Context → Prop) (G : Context → Machine → Prop)

/-- From here on a call keeps the context as it is to be until it comes where it is to go, or it ends
with an error of its own. -/
inductive Leads : Context → Machine → Prop
  | reached {c m} (hc : L c) (hg : G c m) : Leads c m
  | failed {c m v} (hc : L c) (hm : m.focus = .finished (.error v)) (hv : v.isFailure = false) :
      Leads c m
  | asked {c m name arguments} (hc : L c) (hm : m.focus = .asking name arguments)
      (hnext : Leads (answer w c m name arguments).2 (answer w c m name arguments).1) : Leads c m
  | ticked {c m} (hc : L c) (hm : m.focus.isBusy = true) (hnext : Leads c m.tick) : Leads c m

variable {w L G}

theorem Leads.keeps {c : Context} {m : Machine} (h : Leads w L G c m) : L c := by
  cases h <;> assumption

theorem leads_of_advance {c : Context} {m : Machine} (hc : L c)
    (hm : m.focus.isBusy = true ∧ m.focus ≠ .script) (h : Leads w L G c m.advance) :
    Leads w L G c m := by
  rw [Machine.advance_eq_tick hm.2] at h
  exact .ticked hc hm.1 h

/-- A call has ended well, and leaves what is wanted. -/
def Returned (P : List Value → Machine → Prop) (_ : Context) (m : Machine) : Prop :=
  ∃ vs, m.focus = .finished (.ok vs) ∧ P vs m

variable {P : List Value → Machine → Prop}

theorem leads_iff_tick {c : Context} {m : Machine} (hc : L c) (hm : m.focus.isBusy = true) :
    Leads w L (Returned P) c m ↔ Leads w L (Returned P) c m.tick := by
  constructor
  · intro h
    cases h with
    | reached _ hg =>
      obtain ⟨vs, hf, -⟩ := hg
      simp [hf, Focus.isBusy] at hm
    | failed _ hf _ => simp [hf, Focus.isBusy] at hm
    | asked _ hf _ => simp [hf, Focus.isBusy] at hm
    | ticked _ _ hnext => exact hnext
  · exact .ticked hc hm

theorem leads_iff_advance {c : Context} {m : Machine} (hc : L c) (hm : m.focus.isBusy = true) :
    Leads w L (Returned P) c m ↔ Leads w L (Returned P) c m.advance := by
  by_cases hs : m.focus = .script
  · exact Machine.iff_advance (fun m' hm' => leads_iff_tick hc (by simp [hm', Focus.isBusy])) hs
  · rw [Machine.advance_eq_tick hs]
    exact leads_iff_tick hc hm

theorem Leads.run {c : Context} {m : Machine} (h : Leads w L (Returned P) c m) (fuel : Nat) :
    Leads w L (Returned P) c (m.run fuel) := by
  induction fuel generalizing m with
  | zero => exact h
  | succ fuel ih =>
    unfold Machine.run
    split
    · exact h
    · exact h
    · rename_i hask hend
      have hbusy : m.focus.isBusy = true := by
        cases hm : m.focus with
        | asking name arguments => exact absurd hm (hask name arguments)
        | finished r => exact absurd hm (hend r)
        | _ => rfl
      exact ih ((leads_iff_advance h.keeps hbusy).mp h)

/-- A call leaves what is wanted, or it has ended with an error of its own. -/
def Leaves (P : List Value → Machine → Prop) : Except Value (List Value) → Machine → Prop
  | .ok vs, m => P vs m
  | .error v, _ => v.isFailure = false

theorem Leads.served {c : Context} {m : Machine} (h : Leads w L (Returned P) c m) (fuel : Nat) :
    L (serve w fuel c m).2.2 ∧ Leaves P (serve w fuel c m).1 (serve w fuel c m).2.1 := by
  induction fuel generalizing c m with
  | zero => exact ⟨h.keeps, rfl⟩
  | succ fuel ih =>
    have hrun := h.run Machine.plenty
    unfold serve
    dsimp only
    generalize m.run Machine.plenty = m' at hrun
    split
    · rename_i r hr
      refine ⟨h.keeps, ?_⟩
      cases hrun with
      | reached _ hg =>
        obtain ⟨vs, hf, hp⟩ := hg
        cases hr.symm.trans hf
        exact hp
      | failed _ hf hv =>
        cases hr.symm.trans hf
        exact hv
      | asked _ hf _ => cases hr.symm.trans hf
      | ticked _ hf _ => simp [hr, Focus.isBusy] at hf
    · rename_i name arguments hr
      cases hrun with
      | reached _ hg =>
        obtain ⟨vs, hf, -⟩ := hg
        cases hr.symm.trans hf
      | failed _ hf _ => cases hr.symm.trans hf
      | asked _ hf hnext =>
        cases hr.symm.trans hf
        exact ih hnext
      | ticked _ hf _ => simp [hr, Focus.isBusy] at hf
    · exact ⟨h.keeps, rfl⟩

end Leads

/-- Nothing has been used that an apply could tell. -/
structure Silent (c c' : Context) : Prop where
  caller : c'.caller = c.caller
  code : c'.code = c.code
  fatal : c'.fatal = c.fatal
  table : c'.shared.table = c.shared.table
  journal : c'.shared.journal = c.shared.journal

theorem Silent.refl (c : Context) : Silent c c := ⟨rfl, rfl, rfl, rfl, rfl⟩

theorem Silent.trans {a b c : Context} (hab : Silent a b) (hbc : Silent b c) : Silent a c :=
  ⟨hbc.caller.trans hab.caller, hbc.code.trans hab.code, hbc.fatal.trans hab.fatal,
    hbc.table.trans hab.table, hbc.journal.trans hab.journal⟩

/-- Nor has the context itself gone on. -/
structure Quiet (c c' : Context) : Prop extends Silent c c' where
  stage : c'.stage = c.stage
  hooks : c'.hooks = c.hooks

theorem Quiet.refl (c : Context) : Quiet c c := ⟨.refl c, rfl, rfl⟩

theorem Quiet.trans {a b c : Context} (hab : Quiet a b) (hbc : Quiet b c) : Quiet a c :=
  ⟨hab.toSilent.trans hbc.toSilent, hbc.stage.trans hab.stage, hbc.hooks.trans hab.hooks⟩

/-- What a call leaves, if it is quiet, whenever its fuel ends. -/
theorem callWithin_of_leads {w : Surroundings} {P : List Value → Machine → Prop} (fuel : Nat)
    {f : Value} {arguments : List Value} {c : Context} {m : Machine} (hm : c.machine = some m)
    (h : Leads w (Quiet c) (Returned P) { c with machine := none }
      ({ m with ticks := c.shared.ticks }.invoke f arguments)) :
    ∃ r m' c', callWithin w fuel f arguments c = (.ok r, c') ∧ Quiet c c' ∧ c'.machine = some m' ∧
      Leaves P r m' := by
  obtain ⟨hkeeps, hleaves⟩ := h.served fuel
  refine ⟨_, _, _, callWithin_run fuel hm, ?_, rfl, hleaves⟩
  exact ⟨⟨hkeeps.caller, hkeeps.code, hkeeps.fatal, hkeeps.table, hkeeps.journal⟩, hkeeps.stage,
    hkeeps.hooks⟩

end Context

end KernelConfig
