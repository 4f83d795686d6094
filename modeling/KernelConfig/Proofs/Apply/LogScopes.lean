import KernelConfig.Proofs.Apply.Sources
import KernelConfig.Proofs.Log.Scopes

/-!
What applying a source leaves bound for log records: what was bound before, however the source and those
that it loads end.
-/

set_option autoImplicit false

namespace KernelConfig.Apply

open Log (Logger Session Step Nested)

/-- The same is bound for log records. -/
def SameContext (s s' : ApplyState) : Prop := s.logger.SameContext s'.logger

instance : IsPreorder ApplyState SameContext where
  refl _ := .of_bound rfl
  trans _ _ _ := Logger.SameContext.trans

theorem blind_sameContext : Blind SameContext := fun _ _ _ _ hbound => .of_bound hbound

theorem logs_sameContext : Logs SameContext where
  log _ _ _ := moves_modify fun _ => .of_bound (Logger.bound_emit _ _)
  scope fields part h s := by
    rw [inScope_run]
    exact Logger.SameContext.scope (h { s with logger := s.logger.bind fields })

/-- A way of loading other sources after which the same is bound, however it ends. -/
def KeepsContext (loader : Option Loader) : Prop :=
  ∀ load, loader = some load → ∀ path nocheck, Moves SameContext (load path nocheck)

variable {w : Surroundings} {loader : Option Loader}

theorem sameContext_used {c : Caller} (hc : KeepsContext c.loader) (what : Capability)
    (arguments : List Datum) : Moves SameContext (used w c what arguments) := by
  intro s
  show SameContext s (use w c what arguments s).2
  by_cases hload : what = .load
  · subst hload
    rw [use_load]
    split
    · exact moves_throw _ s
    · exact moves_loadFrom logs_sameContext w c _ _ (fun load hload path => hc load hload path _) s
  · exact .of_bound (settles_use w c hload arguments s).bound

theorem sameContext_sourceWith (hl : KeepsContext loader) (s : Source) (depth : Int) :
    Moves SameContext (sourceWith w loader s depth) := by
  unfold sourceWith
  split
  · exact moves_script blind_sameContext logs_sameContext (fun _ => .of_bound rfl)
      (fun _ _ _ => .of_bound rfl) (fun what arguments => sameContext_used hl what arguments) s.text
  · exact moves_checked logs_sameContext (fun _ _ _ _ _ _ _ => .of_bound rfl) w s.name s.text

theorem keepsContext_loaderAt (levels : Nat) (depth : Int) : KeepsContext (loaderAt w levels depth) := by
  -- Sources may load one another in a circle: only the levels that are left get fewer with each load.
  induction levels generalizing depth with
  | zero =>
    intro load hload
    cases hload
  | succ levels ih =>
    intro load hload path nocheck
    cases hload
    cases nocheck with
    | true => exact moves_unchecked logs_sameContext (fun _ _ _ _ _ => .of_bound rfl) w path _
    | false =>
      exact moves_bind (moves_readSourceFile w path) fun s =>
        sameContext_sourceWith (ih (depth + 1)) s (depth + 1)

theorem sameContext_source (s : Source) (depth : Int) : Moves SameContext (source w s depth) :=
  sameContext_sourceWith (keepsContext_loaderAt _ depth) s depth

/-- Where no key is bound twice, and none ever is (`Session.nodup_run`), a scope gives back its own keys and
those only: each has what it had when the scope was entered, if anything, and every other key what the steps
in the scope have left it. So scopes alone change nothing, and neither does applying a source, whatever it
loads and however it ends. -/
theorem scopes_restore_their_keys (l : Logger) (hl : l.bound.keys.Nodup) :
    (∀ (scopes : List Log.Scope) (fields : Fields) (inner : List Step), Nested inner →
      let entered : Session := Session.run ⟨l, scopes⟩ (.enter fields :: inner)
      let left : Session := Session.run ⟨l, scopes⟩ (.enter fields :: (inner ++ [.exit]))
      (∀ key ∈ fields.keys, left.logger.bound.get? key = l.bound.get? key) ∧
        ∀ key ∉ fields.keys, left.logger.bound.get? key = entered.logger.bound.get? key) ∧
    (∀ (scopes : List Log.Scope) (steps : List Step), Nested steps → (∀ step ∈ steps, step.IsQuiet) →
      ∀ key, (Session.run ⟨l, scopes⟩ steps).logger.bound.get? key = l.bound.get? key) ∧
    ∀ (w : Surroundings) (src : Source) (depth : Int) (s : ApplyState), s.logger = l →
      ∀ key, (source w src depth s).2.logger.bound.get? key = l.bound.get? key := by
  refine ⟨fun scopes fields inner hinner => ?_, fun scopes steps hsteps hquiet => ?_,
    fun w src depth s hs => ?_⟩
  · have hleft := hinner.get?_run_scope (s := ⟨l, scopes⟩) hl fields
    exact ⟨fun key hkey => (hleft key).trans (if_pos hkey), fun key hkey => (hleft key).trans (if_neg hkey)⟩
  · exact (hsteps.sameContext_run hquiet ⟨l, scopes⟩ hl).2
  · subst hs
    exact (sameContext_source src depth s hl).2

/-- The context of a script that applies another source. -/
def outerContext : Logger := { bound := [("source", .text "outer.lua"), ("depth", .int 0)] }

/-- In a scope, its key is unbound, and a scope inside it clears everything. -/
def disturbance : List Step :=
  [.unbind ["source"], .enter [("depth", .int 1)], .clear, .bind [("source", .text "x"), ("kind", .text "lua")],
    .exit, .log { level := .info, name := "left" }]

theorem nested_disturbance : Nested disturbance :=
  .plain trivial (@Nested.scope _ [.clear, .bind _] [.log _] (.plain trivial (.plain trivial .nil))
    (.plain trivial .nil))

theorem scopes_restore_their_keys_disturbed :
    let left := (Session.run ⟨outerContext, []⟩
      (.enter [("source", .text "inner.lua"), ("line", .int 3)] :: (disturbance ++ [.exit]))).logger.bound
    (left.get? "source" = some (.text "outer.lua") ∧ left.get? "line" = none ∧
      left.get? "depth" = some (.int 0) ∧ left.get? "kind" = some (.text "lua")) ∧
    (Session.run ⟨outerContext, []⟩ [.enter [("source", .text "a")], .enter [("source", .text "b")], .exit,
      .exit]).logger.bound.get? "source" = some (.text "outer.lua") ∧
    let failed := source {} ⟨.declarative, "b.config", "CONFIG_BASE=1\n"⟩ 0 ⟨{}, outerContext, 0, []⟩
    failed.1.isOk = false ∧ failed.2.logger.bound.get? "source" = some (.text "outer.lua") := by
  have ⟨hscope, hquiet, hsource⟩ := scopes_restore_their_keys outerContext (by decide)
  have ⟨hown, hothers⟩ := hscope [] [("source", .text "inner.lua"), ("line", .int 3)] _ nested_disturbance
  have hnested : Nested [.enter [("source", .text "a")], .enter [("source", .text "b")], .exit, .exit] :=
    @Nested.scope _ [.enter _, .exit] [] (@Nested.scope _ [] [] .nil .nil) .nil
  refine ⟨⟨hown "source" (by decide), hown "line" (by decide), ?_, ?_⟩, ?_, by decide +kernel, ?_⟩
  · exact (hothers "depth" (by decide)).trans rfl
  · exact (hothers "kind" (by decide)).trans rfl
  · exact hquiet [] _ hnested (by simp [Step.IsQuiet]) "source"
  · exact hsource {} _ 0 _ rfl "source"

end KernelConfig.Apply
