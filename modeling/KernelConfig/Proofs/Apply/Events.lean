import Mathlib.Data.List.Basic
import KernelConfig.Proofs.Apply.Replies

/-!
Events: which contexts are open after some of what happens in an apply, how they end, and which fatal
fault comes first.
-/

set_option autoImplicit false

namespace KernelConfig.Apply

namespace Event

/-- The fatal fault that a use of a capability has ended with. -/
def fatal? : Event → Option Fault
  | used _ _ _ answer => fatalOf? answer
  | _ => none

/-- Whether a script has asked to load another source. -/
def isLoad : Event → Bool
  | used _ .load _ _ => true
  | _ => false

/-- Whether a context is closed whose script has been called and has given no reply. -/
def isUnanswered : Event → Bool
  | closed _ .userScriptRunning _ => true
  | _ => false

end Event

def firstFatal (events : List Event) : Option Fault := events.findSome? Event.fatal?

/-- Every script that was called has given a reply. -/
def Answered (events : List Event) : Prop := ∀ e ∈ events, e.isUnanswered = false

/-- After the events a context at the depth is open. -/
def IsOpen (depth : Int) (events : List Event) : Prop :=
  ∃ before source after, events = before ++ .opened depth source :: after ∧
    ∀ stage outcome, .closed depth stage outcome ∉ after

/-- The context that is open at the depth when the events begin is closed by them with an outcome. -/
def EndsAt (depth : Int) (stage : Stage) (outcome : Except Failure Unit) (events : List Event) : Prop :=
  ∃ before after, events = before ++ .closed depth stage outcome :: after ∧
    ∀ stage outcome, .closed depth stage outcome ∉ before

/-- All contexts that are open when the first fatal fault comes up fail with it. -/
def FailsOpen (events : List Event) : Prop :=
  ∀ before e after f, events = before ++ e :: after → firstFatal before = none →
    e.fatal? = some f → ∀ depth, IsOpen depth before →
      EndsAt depth .failed (.error (.fault f)) after

variable {events events' : List Event} {depth : Int}

@[simp] theorem firstFatal_nil : firstFatal [] = none := rfl

@[simp] theorem firstFatal_append (events events' : List Event) :
    firstFatal (events ++ events') = (firstFatal events).or (firstFatal events') := by
  rw [firstFatal, List.findSome?_append]
  rfl

theorem fatal_of_firstFatal {f : Fault} (h : firstFatal events = some f) : f.fatal = true := by
  obtain ⟨e, -, he⟩ := List.exists_of_findSome?_eq_some h
  cases e with
  | used d what arguments answer =>
    simp only [Event.fatal?, fatalOf?] at he
    split at he
    · split at he
      · cases he
        assumption
      · cases he
    · cases he
  | _ => cases he

theorem answered_append :
    Answered (events ++ events') ↔ Answered events ∧ Answered events' := by
  simp only [Answered, List.mem_append, or_imp, forall_and]

theorem stage_of_answered {stage : Stage} {outcome : Except Failure Unit}
    (h : Answered [.closed depth stage outcome]) : stage ≠ .userScriptRunning := by
  rintro rfl
  cases h _ (List.mem_singleton_self _)

/-- An event among events that follow others is one of these or one of those. -/
theorem append_eq_split {before after : List Event} {e : Event}
    (h : events ++ events' = before ++ e :: after) :
    (∃ rest, before = events ++ rest ∧ events' = rest ++ e :: after) ∨
      ∃ rest, events = before ++ e :: rest ∧ after = rest ++ events' := by
  rcases List.append_eq_append_iff.mp h with ⟨rest, hbefore, hrest⟩ | ⟨rest, hevents, hrest⟩
  · exact .inl ⟨rest, hbefore, hrest⟩
  · cases rest with
    | nil => exact .inl ⟨[], by simpa using hevents.symm, by simpa using hrest.symm⟩
    | cons e' rest =>
      obtain ⟨rfl, hafter⟩ := List.cons_eq_cons.mp hrest
      exact .inr ⟨rest, hevents, hafter⟩

/-- A fatal fault comes up between the events by which a context is opened and closed. -/
theorem split_of_fatal {d : Int} {source : String} {stage : Stage} {outcome : Except Failure Unit}
    {before after : List Event} {e : Event} {f : Fault}
    (h : [.opened d source] ++ events ++ [.closed d stage outcome] = before ++ e :: after)
    (hfatal : e.fatal? = some f) : ∃ inner rest, events = inner ++ e :: rest ∧
      before = [.opened d source] ++ inner ∧ after = rest ++ [.closed d stage outcome] := by
  have hother : ∀ {e' : Event} {before after : List Event}, e'.fatal? = none →
      [e'] ≠ before ++ e :: after := by
    intro e' before after hnone he
    rcases List.singleton_eq_append_iff.mp he with ⟨-, he⟩ | ⟨-, he⟩
    · cases he
      cases hnone.symm.trans hfatal
    · cases he
  rcases append_eq_split h with ⟨rest, -, hrest⟩ | ⟨rest, hrest, rfl⟩
  · exact absurd hrest (hother rfl)
  · rcases append_eq_split hrest with ⟨inner, rfl, rfl⟩ | ⟨inner, he, -⟩
    · exact ⟨inner, rest, rfl, rfl, rfl⟩
    · exact absurd he (hother rfl)

/-! ### Open contexts -/

theorem not_isOpen_nil (depth : Int) : ¬ IsOpen depth [] := by
  rintro ⟨before, source, after, h, -⟩
  simp at h

/-- What is open after events that follow others has been opened by these or by those. -/
theorem isOpen_append (h : IsOpen depth (events ++ events')) :
    (IsOpen depth events ∧ ∀ stage outcome, .closed depth stage outcome ∉ events') ∨
      IsOpen depth events' := by
  obtain ⟨before, source, after, he, hclosed⟩ := h
  rcases append_eq_split he with ⟨rest, -, hrest⟩ | ⟨rest, hevents, rfl⟩
  · exact .inr ⟨rest, source, after, hrest, hclosed⟩
  · simp only [List.mem_append, not_or] at hclosed
    exact .inl ⟨⟨before, source, rest, hevents, fun stage outcome => (hclosed stage outcome).1⟩,
      fun stage outcome => (hclosed stage outcome).2⟩

theorem isOpen_singleton {e : Event} : IsOpen depth [e] ↔ ∃ source, e = .opened depth source := by
  constructor
  · rintro ⟨before, source, after, he, -⟩
    rcases List.singleton_eq_append_iff.mp he with ⟨-, he⟩ | ⟨-, he⟩
    · exact ⟨source, (List.cons_eq_cons.mp he).1.symm⟩
    · cases he
  · rintro ⟨source, rfl⟩
    exact ⟨[], source, [], rfl, fun _ _ h => by cases h⟩

theorem EndsAt.append {stage : Stage} {outcome : Except Failure Unit}
    (h : EndsAt depth stage outcome events) (events' : List Event) :
    EndsAt depth stage outcome (events ++ events') := by
  obtain ⟨before, after, rfl, hclosed⟩ := h
  exact ⟨before, after ++ events', by simp, hclosed⟩

/-- Events that contexts below a depth make: all that are opened are closed. -/
structure Nested (depth : Int) (events : List Event) : Prop where
  deeper : ∀ d stage outcome, .closed d stage outcome ∈ events → depth < d
  shut : ∀ d, ¬ IsOpen d events
  fails : Answered events → FailsOpen events

namespace Nested

theorem nil (depth : Int) : Nested depth [] where
  deeper _ _ _ h := by cases h
  shut := not_isOpen_nil
  fails _ before e after f h := by simp at h

/-- Nothing is left open by the first events, so what follows is on its own. -/
theorem append (h : Nested depth events) (h' : Nested depth events') :
    Nested depth (events ++ events') where
  deeper d stage outcome hmem :=
    (List.mem_append.mp hmem).elim (h.deeper d stage outcome) (h'.deeper d stage outcome)
  shut d hopen := (isOpen_append hopen).elim (fun ho => h.shut d ho.1) (h'.shut d)
  fails hanswered before e after f he hfirst hfatal d hopen := by
    rw [answered_append] at hanswered
    rcases append_eq_split he with ⟨rest, rfl, hrest⟩ | ⟨rest, hevents, rfl⟩
    · have hopen' := (isOpen_append hopen).resolve_left fun ho => h.shut d ho.1
      rw [firstFatal_append, Option.or_eq_none_iff] at hfirst
      exact h'.fails hanswered.2 rest e after f hrest hfirst.2 hfatal d hopen'
    · exact (h.fails hanswered.1 before e rest f hevents hfirst hfatal d hopen).append events'

theorem used (depth d : Int) (what : Capability) (arguments : List Datum)
    (answer : Except Failure (List Datum)) : Nested depth [.used d what arguments answer] where
  deeper _ _ _ h := by simp at h
  shut d hopen := by
    obtain ⟨source, he⟩ := isOpen_singleton.mp hopen
    cases he
  fails _ before e after f he hfirst hfatal d hopen := by
    have hbefore : before = [] := by
      cases before with
      | nil => rfl
      | cons e before => simp at he
    subst hbefore
    exact absurd hopen (not_isOpen_nil d)

/-- The events of a context that fails with the fatal fault that comes up in it. -/
theorem context {d : Int} (hd : depth < d) (h : Nested d events) (source : String) (stage : Stage)
    (outcome : Except Failure Unit)
    (hfails : Answered events → stage ≠ .userScriptRunning → ∀ f, firstFatal events = some f →
      stage = .failed ∧ outcome = .error (.fault f)) :
    Nested depth ([.opened d source] ++ events ++ [.closed d stage outcome]) where
  deeper _ _ _ hmem := by
    simp only [List.mem_append, List.mem_singleton] at hmem
    rcases hmem with (he | hmem) | he
    · cases he
    · exact lt_trans hd (h.deeper _ _ _ hmem)
    · cases he
      exact hd
  shut d' hopen := by
    rcases isOpen_append hopen with ⟨hopen, hclosed⟩ | hopen
    · rcases isOpen_append hopen with ⟨hopen, -⟩ | hopen
      · obtain ⟨_, he⟩ := isOpen_singleton.mp hopen
        cases he
        exact hclosed stage outcome (by simp)
      · exact h.shut d' hopen
    · obtain ⟨_, he⟩ := isOpen_singleton.mp hopen
      cases he
  fails hanswered before e after f he hfirst hfatal d' hopen := by
    simp only [answered_append] at hanswered
    obtain ⟨⟨-, hanswered⟩, hlast⟩ := hanswered
    have hstage := stage_of_answered hlast
    obtain ⟨inner, rest, rfl, rfl, rfl⟩ := split_of_fatal he hfatal
    rw [firstFatal_append, Option.or_eq_none_iff] at hfirst
    have hfault : firstFatal (inner ++ e :: rest) = some f := by
      rw [firstFatal_append, hfirst.2, Option.none_or, firstFatal, List.findSome?_cons, hfatal]
    obtain ⟨rfl, rfl⟩ := hfails hanswered hstage f hfault
    rcases isOpen_append hopen with ⟨hopen, -⟩ | hopen
    · obtain ⟨_, he⟩ := isOpen_singleton.mp hopen
      cases he
      refine ⟨rest, [], rfl, fun stage outcome hmem => ?_⟩
      exact lt_irrefl d (h.deeper d stage outcome (by simp [hmem]))
    · exact (h.fails hanswered inner e rest f rfl hfirst.2 hfatal d' hopen).append _

end Nested

end KernelConfig.Apply
