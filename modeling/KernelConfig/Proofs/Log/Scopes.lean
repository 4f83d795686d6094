import KernelConfig.Log.Logger
import KernelConfig.Proofs.Value.Fields

/-!
Scopes of a logger, one inside the other. Whatever is done in a scope, leaving it gives its own keys back
what they had when it was entered, and leaves every other key as it is.
-/

set_option autoImplicit false

namespace KernelConfig.Log

/-! ### One scope -/

theorem Scope.get?_leave {c : Fields} (hc : c.keys.Nodup) (fields bound : Fields) (key : String) :
    ((Scope.of c fields).leave bound).get? key =
      if key ∈ fields.keys then c.get? key else bound.get? key := by
  have hsaved : (c.only fields.keys).keys.Nodup := Fields.nodup_keys_filter hc _
  unfold Scope.leave Scope.of
  rw [Fields.get?_putAll hsaved, Fields.get?_only, Fields.get?_remove]
  split
  · rw [Option.or_none]
  · rw [Option.none_or]

theorem Scope.nodup_leave {bound : Fields} (h : bound.keys.Nodup) (scope : Scope) :
    (scope.leave bound).keys.Nodup :=
  Fields.nodup_keys_putAll (Fields.nodup_keys_filter h _) _

/-- The same keys are bound to the same data, where no key stands twice to begin with. -/
def Logger.SameContext (l l' : Logger) : Prop :=
  l.bound.keys.Nodup → l'.bound.keys.Nodup ∧ ∀ key, l'.bound.get? key = l.bound.get? key

namespace Logger.SameContext

variable {l l' : Logger}

theorem of_bound (h : l'.bound = l.bound) : l.SameContext l' := fun hl => by
  rw [h]
  exact ⟨hl, fun _ => rfl⟩

theorem trans {l'' : Logger} (h : l.SameContext l') (h' : l'.SameContext l'') : l.SameContext l'' :=
  fun hl =>
    have ⟨hnodup', hsame'⟩ := h' (h hl).1
    ⟨hnodup', fun key => (hsame' key).trans ((h hl).2 key)⟩

/-- A scope in which the context stays the same leaves the one outside it the same. -/
theorem scope {fields : Fields} (h : (l.bind fields).SameContext l') :
    l.SameContext (l'.leave (Scope.of l.bound fields)) := by
  intro hl
  have ⟨hnodup, hsame⟩ := h (Fields.nodup_keys_putAll hl fields)
  refine ⟨Scope.nodup_leave hnodup _, fun key => ?_⟩
  show ((Scope.of l.bound fields).leave l'.bound).get? key = _
  rw [Scope.get?_leave hl]
  split
  · rfl
  · rename_i hkey
    exact (hsame key).trans (Fields.get?_putAll_of_not_mem hkey _)

end Logger.SameContext

/-! ### Scopes one inside the other -/

inductive Step where
  | bind (fields : Fields)
  | unbind (keys : List String)
  | clear
  | log (e : Event)
  | enter (fields : Fields)
  | exit

/-- Neither enters a scope nor leaves one. -/
def Step.IsPlain : Step → Prop
  | enter _ | exit => False
  | _ => True

/-- Binds nothing but what a scope does. -/
def Step.IsQuiet : Step → Prop
  | bind _ | unbind _ | clear => False
  | _ => True

/-- A logger with the scopes that are open, the innermost first. -/
structure Session where
  logger : Logger := {}
  scopes : List Scope := []

namespace Session

def step (s : Session) : Step → Session
  | .bind fields => { s with logger := s.logger.bind fields }
  | .unbind keys => { s with logger := s.logger.unbind keys }
  | .clear => { s with logger := s.logger.clear }
  | .log e => { s with logger := s.logger.emit e }
  | .enter fields =>
    let (logger, scope) := s.logger.enter fields
    ⟨logger, scope :: s.scopes⟩
  | .exit => match s.scopes with
    | [] => s
    | scope :: scopes => ⟨s.logger.leave scope, scopes⟩

def run (s : Session) (steps : List Step) : Session := steps.foldl step s

theorem run_append (s : Session) (steps steps' : List Step) :
    s.run (steps ++ steps') = (s.run steps).run steps' := List.foldl_append

theorem nodup_step {s : Session} (h : s.logger.bound.keys.Nodup) (step : Step) :
    (s.step step).logger.bound.keys.Nodup := by
  cases step with
  | bind fields => exact Fields.nodup_keys_putAll h fields
  | unbind keys => exact Fields.nodup_keys_filter h _
  | clear => exact List.nodup_nil
  | log e => simpa [Session.step] using h
  | enter fields => exact Fields.nodup_keys_putAll h fields
  | exit =>
    unfold Session.step
    cases s.scopes with
    | nil => exact h
    | cons scope scopes => exact Scope.nodup_leave h scope

/-- Whatever is done to a logger, no key comes to be bound twice. -/
theorem nodup_run {s : Session} (h : s.logger.bound.keys.Nodup) (steps : List Step) :
    (s.run steps).logger.bound.keys.Nodup := by
  induction steps generalizing s with
  | nil => exact h
  | cons step steps ih => exact ih (nodup_step h step)

theorem scopes_step {step : Step} (h : step.IsPlain) (s : Session) : (s.step step).scopes = s.scopes := by
  cases step with
  | enter _ => exact h.elim
  | exit => exact h.elim
  | _ => rfl

end Session

/-- Steps that leave each scope they enter, the innermost first, and no other one. -/
inductive Nested : List Step → Prop where
  | nil : Nested []
  | plain {step : Step} {rest : List Step} : step.IsPlain → Nested rest → Nested (step :: rest)
  | scope {fields : Fields} {inner rest : List Step} :
    Nested inner → Nested rest → Nested (.enter fields :: (inner ++ .exit :: rest))

namespace Nested

open Session

theorem scopes_run {steps : List Step} (h : Nested steps) (s : Session) :
    (s.run steps).scopes = s.scopes := by
  induction h generalizing s with
  | nil => rfl
  | plain hplain _ ih => exact (ih _).trans (scopes_step hplain s)
  | @scope fields inner rest _ _ ihinner ihrest =>
    show ((s.step (.enter fields)).run (inner ++ .exit :: rest)).scopes = _
    have hopen := ihinner (s.step (.enter fields))
    rw [run_append]
    refine (ihrest _).trans ?_
    unfold Session.step at hopen ⊢
    rw [hopen]

/-- The scope that is left is the one that was entered. -/
theorem run_scope {inner : List Step} (h : Nested inner) (s : Session) (fields : Fields) :
    s.run (.enter fields :: (inner ++ [.exit])) =
      ⟨(s.run (.enter fields :: inner)).logger.leave (Scope.of s.logger.bound fields), s.scopes⟩ := by
  have hopen : (s.run (.enter fields :: inner)).scopes = Scope.of s.logger.bound fields :: s.scopes :=
    h.scopes_run (s.step (.enter fields))
  rw [← List.cons_append, run_append]
  show (s.run (.enter fields :: inner)).step .exit = _
  unfold Session.step
  rw [hopen]

theorem get?_run_scope {inner : List Step} (h : Nested inner) {s : Session}
    (hs : s.logger.bound.keys.Nodup) (fields : Fields) (key : String) :
    (s.run (.enter fields :: (inner ++ [.exit]))).logger.bound.get? key =
      if key ∈ fields.keys then s.logger.bound.get? key
      else (s.run (.enter fields :: inner)).logger.bound.get? key := by
  rw [h.run_scope]
  exact Scope.get?_leave hs fields _ key

theorem sameContext_run {steps : List Step} (h : Nested steps) (hquiet : ∀ step ∈ steps, step.IsQuiet)
    (s : Session) : s.logger.SameContext (s.run steps).logger := by
  -- A scope keeps what was bound before it because what is done in it does.
  induction h generalizing s with
  | nil => exact .of_bound rfl
  | @plain step rest hplain _ ih =>
    obtain ⟨hstep, hrest⟩ := List.forall_mem_cons.mp hquiet
    refine .trans ?_ (ih hrest (s.step step))
    cases step with
    | log e => exact .of_bound (Logger.bound_emit _ e)
    | bind _ => exact hstep.elim
    | unbind _ => exact hstep.elim
    | clear => exact hstep.elim
    | enter _ => exact hplain.elim
    | exit => exact hplain.elim
  | @scope fields inner rest hinner _ ihinner ihrest =>
    have hparts : (∀ step ∈ inner, step.IsQuiet) ∧ ∀ step ∈ rest, step.IsQuiet := by
      simp only [List.forall_mem_cons, List.forall_mem_append] at hquiet
      exact ⟨hquiet.2.1, hquiet.2.2.2⟩
    have hscope : s.logger.SameContext (s.run (.enter fields :: (inner ++ [.exit]))).logger := by
      rw [hinner.run_scope]
      exact (ihinner hparts.1 (s.step (.enter fields))).scope
    have hsplit : s.run (.enter fields :: (inner ++ .exit :: rest)) =
        (s.run (.enter fields :: (inner ++ [.exit]))).run rest := by
      rw [← run_append, List.cons_append, List.append_assoc, List.singleton_append]
    rw [hsplit]
    exact hscope.trans (ihrest hparts.2 _)

end Nested

end KernelConfig.Log
