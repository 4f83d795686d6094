import KernelConfig.Proofs.Apply.Events
import KernelConfig.Proofs.Apply.Installing
import KernelConfig.Proofs.Apply.Sources

/-!
Fatal runs: a fatal fault that comes up anywhere ends the apply with this very fault, whatever the
scripts do that are running, as long as they give their hosts a reply.
-/

set_option autoImplicit false

namespace KernelConfig

namespace Apply

/-! ### Parts of an apply that tell the first fatal fault -/

/-- A part of an apply nests its contexts below a depth, and ends with the fatal fault that comes up
first in them. -/
def Tells {α : Type} (depth : Int) (part : Apply α) : Prop :=
  ∀ s, ∃ events, (part s).2.journal = events.reverse ++ s.journal ∧ Nested depth events ∧
    (Answered events → ∀ f, firstFatal events = some f → (part s).1 = .error (.fault f))

section

variable {α β : Type} {depth : Int}

theorem Tells.bind {part : Apply α} {next : α → Apply β} (h : Tells depth part)
    (hnext : ∀ a, Tells depth (next a)) : Tells depth (part >>= next) := by
  intro s
  obtain ⟨events, hjournal, hnested, hends⟩ := h s
  rw [bind_run]
  rcases hr : part s with ⟨e | a, s'⟩ <;> rw [hr] at hjournal hends
  · refine ⟨events, hjournal, hnested, fun hanswered f hf => ?_⟩
    cases hends hanswered f hf
    rfl
  · obtain ⟨events', hjournal', hnested', hends'⟩ := hnext a s'
    refine ⟨events ++ events', ?_, hnested.append hnested', fun hanswered f hf => ?_⟩
    · rw [hjournal', hjournal, List.reverse_append, List.append_assoc]
    · rw [answered_append] at hanswered
      cases hfirst : firstFatal events with
      | some g => cases hends hanswered.1 g hfirst
      | none =>
        rw [firstFatal_append, hfirst, Option.none_or] at hf
        exact hends' hanswered.2 f hf

theorem Tells.onFault {part : Apply α} {handle : Fault → Apply α} (h : Tells depth part)
    (hjournal : ∀ f s, (handle f s).2.journal = s.journal)
    (hfatal : ∀ f s, f.fatal = true → (handle f s).1 = .error (.fault f)) :
    Tells depth (onFault part handle) := by
  intro s
  obtain ⟨events, hevents, hnested, hends⟩ := h s
  rw [onFault_run]
  rcases hr : part s with ⟨(f | m) | a, s'⟩ <;> rw [hr] at hevents hends
  · refine ⟨events, (hjournal f s').trans hevents, hnested, fun hanswered g hg => ?_⟩
    cases hends hanswered g hg
    exact hfatal f s' (fatal_of_firstFatal hg)
  · exact ⟨events, hevents, hnested, hends⟩
  · exact ⟨events, hevents, hnested, hends⟩

theorem Tells.inScope {part : Apply α} (h : Tells depth part) (fields : Fields) :
    Tells depth (inScope fields part) := by
  intro s
  rw [inScope_run]
  exact h { s with logger := s.logger.bind fields }

/-- Nothing is noted in the journal. -/
def Unnoted (s s' : ApplyState) : Prop := s'.journal = s.journal

instance : IsPreorder ApplyState Unnoted where
  refl _ := rfl
  trans _ _ _ hab hbc := Eq.trans hbc hab

theorem logs_unnoted : Logs Unnoted := logs_of_logger fun _ _ => rfl

/-- A script whose way of applying other sources tells the first fatal fault. -/
def TellsBelow (c : Caller) : Prop :=
  ∀ load, c.loader = some load → ∀ path nocheck, Tells c.depth (load path nocheck)

variable {w : Surroundings} {c : Caller}

end

end Apply

/-! ### Contexts -/

namespace Context

open Apply

/-- What a context does to the journal and to its fatal fault, which is the first one that comes up in
it and below. -/
def Records (c c' : Context) : Prop :=
  c'.caller = c.caller ∧ (TellsBelow c.caller →
    ∃ events, c'.shared.journal = events.reverse ++ c.shared.journal ∧
      Nested c.caller.depth events ∧
      (Answered events → c'.fatal = c.fatal.or (firstFatal events)))

section

variable {α : Type} {w : Surroundings} {A : Context → Prop} {B : α → Context → Prop}

theorem conclude_state (c : Context) (failed : Option (Datum × Datum)) :
    (conclude w failed c).2 = c := by
  unfold conclude
  rw [bind_run_ok (get_run c)]
  dsimp only
  cases c.fatal with
  | some f => rfl
  | none =>
    dsimp only
    split
    · rfl
    · split <;> rfl

/-- What a reply amounts to. -/
def concluded (w : Surroundings) : Except Mishap (List Datum) → Stepping Unit
  | .error f => throw (.mishap f)
  | .ok (.bool false :: message :: rest) => conclude w (some (message, rest.headD .null))
  | .ok _ => conclude w none

theorem concluded_cases (reply : Except Mishap (List Datum)) :
    (∃ m, concluded w reply = throw (.mishap m)) ∨ ∃ failed, concluded w reply = conclude w failed := by
  unfold concluded
  split
  · exact .inl ⟨_, rfl⟩
  · exact .inr ⟨_, rfl⟩
  · exact .inr ⟨_, rfl⟩

end

end Context

/-! ### Sources -/

namespace Apply

variable {w : Surroundings}

theorem inContext_run {caller : Caller} {start : ApplyState → Context} {steps : Stepping Unit}
    {s : ApplyState} {r : Except Failure Unit} {c : Context}
    (h : steps (start (s.note (.opened caller.depth caller.source))) = (r, c)) :
    inContext caller start steps s = (r, c.shared.note (.closed caller.depth c.stage r)) := by
  rw [inContext, h]

/-- What happens while a part of an apply is done, in order. -/
def happenings {α : Type} (part : Apply α) (s : ApplyState) : List Event :=
  ((part s).2.journal.take ((part s).2.journal.length - s.journal.length)).reverse

theorem happenings_eq {α : Type} {part : Apply α} {s : ApplyState} {events : List Event}
    (h : (part s).2.journal = events.reverse ++ s.journal) : happenings part s = events := by
  simp [happenings, h]

end Apply

end KernelConfig
