import Mathlib.Order.Defs.Unbundled
import KernelConfig.Apply.Declarative

/-!
Programs as functions of the state: what each building block answers and which state it leaves, and
the relations between states that a program stays in.
-/

set_option autoImplicit false

namespace KernelConfig

section Programs

variable {ε σ α β : Type}

theorem pure_run (a : α) (s : σ) : (pure a : ExceptT ε (StateM σ) α) s = (.ok a, s) := rfl

theorem throw_run (e : ε) (s : σ) : (throw e : ExceptT ε (StateM σ) α) s = (.error e, s) := rfl

theorem bind_run (x : ExceptT ε (StateM σ) α) (f : α → ExceptT ε (StateM σ) β) (s : σ) :
    (x >>= f) s = match x s with
      | (.ok a, s') => f a s'
      | (.error e, s') => (.error e, s') := by
  show (ExceptT.bind x f : ExceptT ε (StateM σ) β) s = _
  unfold ExceptT.bind ExceptT.mk ExceptT.bindCont
  show (StateT.bind x _ : StateT σ Id _) s = _
  unfold StateT.bind
  rcases h : x s with ⟨_ | _, _⟩ <;> simp <;> rfl

theorem bind_run_ok {x : ExceptT ε (StateM σ) α} {f : α → ExceptT ε (StateM σ) β} {s s' : σ} {a : α}
    (h : x s = (.ok a, s')) : (x >>= f) s = f a s' := by
  rw [bind_run, h]

theorem bind_run_error {x : ExceptT ε (StateM σ) α} {f : α → ExceptT ε (StateM σ) β} {s s' : σ}
    {e : ε} (h : x s = (.error e, s')) : (x >>= f) s = (.error e, s') := by
  rw [bind_run, h]

theorem exists_of_bind_run {x : ExceptT ε (StateM σ) α} {f : α → ExceptT ε (StateM σ) β} {s s'' : σ}
    {b : β} (h : (x >>= f) s = (.ok b, s'')) : ∃ a s', x s = (.ok a, s') ∧ f a s' = (.ok b, s'') := by
  rw [bind_run] at h
  rcases hx : x s with ⟨_ | a, s'⟩ <;> rw [hx] at h
  · cases h
  · exact ⟨a, s', rfl, h⟩

theorem get_run (s : σ) : (get : ExceptT ε (StateM σ) σ) s = (.ok s, s) := rfl

theorem modify_run (f : σ → σ) (s : σ) : (modify f : ExceptT ε (StateM σ) PUnit) s = (.ok ⟨⟩, f s) :=
  rfl

/-- A program whose final state always has a relation to its first one, however it ends. -/
def Moves (Q : σ → σ → Prop) (x : ExceptT ε (StateM σ) α) : Prop := ∀ s, Q s (x s).2

variable {Q : σ → σ → Prop}

theorem moves_pure [Std.Refl Q] (a : α) : Moves Q (pure a : ExceptT ε (StateM σ) α) :=
  fun s => Std.Refl.refl s

theorem moves_throw [Std.Refl Q] (e : ε) : Moves Q (throw e : ExceptT ε (StateM σ) α) :=
  fun s => Std.Refl.refl s

theorem moves_get [Std.Refl Q] : Moves Q (get : ExceptT ε (StateM σ) σ) := fun s => Std.Refl.refl s

theorem moves_modify {f : σ → σ} (h : ∀ s, Q s (f s)) :
    Moves Q (modify f : ExceptT ε (StateM σ) PUnit) := h

theorem moves_bind [IsTrans σ Q] {x : ExceptT ε (StateM σ) α} {f : α → ExceptT ε (StateM σ) β}
    (hx : Moves Q x) (hf : ∀ a, Moves Q (f a)) : Moves Q (x >>= f) := by
  intro s
  have h := hx s
  rw [bind_run]
  rcases hr : x s with ⟨_ | a, s'⟩ <;> rw [hr] at h
  · exact h
  · exact IsTrans.trans _ _ _ h (hf a s')

theorem moves_forM [IsPreorder σ Q] {f : α → ExceptT ε (StateM σ) PUnit} (as : List α)
    (hf : ∀ a, Moves Q (f a)) : Moves Q (as.forM f) := by
  induction as with
  | nil => exact moves_pure _
  | cons a as ih => exact moves_bind (hf a) fun _ => ih

theorem Moves.mono {Q' : σ → σ → Prop} {x : ExceptT ε (StateM σ) α} (h : Moves Q x)
    (hQ : ∀ s s', Q s s' → Q' s s') : Moves Q' x := fun s => hQ _ _ (h s)

end Programs

namespace Apply

variable {α : Type}

theorem table_run (s : ApplyState) : table s = (.ok s.table, s) := rfl

theorem setTable_run (t : SymbolTable) (s : ApplyState) :
    setTable t s = (.ok (), { s with table := t }) := rfl

theorem log_run (level : Log.Level) (name : String) (fields : Fields) (s : ApplyState) :
    log level name fields s = (.ok (), { s with logger := s.logger.emit { level, name, fields } }) :=
  rfl

theorem inScope_run (fields : Fields) (part : Apply α) (s : ApplyState) :
    inScope fields part s =
      let r := part { s with logger := s.logger.bind fields }
      (r.1, { r.2 with logger := r.2.logger.leave (Log.Scope.of s.logger.bound fields) }) := rfl

theorem onFault_run (part : Apply α) (handle : Fault → Apply α) (s : ApplyState) :
    onFault part handle s = match part s with
      | (.ok a, s') => (.ok a, s')
      | (.error (.fault f), s') => handle f s'
      | (.error (.mishap m), s') => (.error (.mishap m), s') := by
  show (ExceptT.tryCatch part _ : Apply α) s = _
  unfold ExceptT.tryCatch ExceptT.mk
  show (StateT.bind part _ : StateT ApplyState Id _) s = _
  unfold StateT.bind
  rcases h : part s with ⟨e | a, s'⟩
  · cases e <;> simp <;> rfl
  · simp; rfl

/-! ### Relations that logging stays in -/

variable {Q : ApplyState → ApplyState → Prop}

/-- A relation that a log record stays in, and a part in a scope if it does so without. -/
structure Logs (Q : ApplyState → ApplyState → Prop) : Prop where
  log : ∀ level name fields, Moves Q (log level name fields)
  scope : ∀ {β : Type} (fields : Fields) {part : Apply β}, Moves Q part → Moves Q (inScope fields part)

variable [IsPreorder ApplyState Q]

theorem logs_of_logger (hlog : ∀ s logger, Q s { s with logger }) : Logs Q where
  log level name fields := moves_modify fun s => hlog s _
  scope fields part h s := by
    rw [inScope_run]
    have hpart := h { s with logger := s.logger.bind fields }
    exact IsTrans.trans _ _ _ (hlog s _) (IsTrans.trans _ _ _ hpart (hlog _ _))

theorem moves_fail (f : Fault) : Moves Q (fail f : Apply α) := moves_throw _

theorem moves_table : Moves Q table := moves_bind moves_get fun _ => moves_pure _

theorem moves_onFault {part : Apply α} {handle : Fault → Apply α} (h : Moves Q part)
    (hf : ∀ f, Moves Q (handle f)) : Moves Q (onFault part handle) := by
  intro s
  have hs := h s
  rw [onFault_run]
  rcases hr : part s with ⟨(f | m) | a, s'⟩ <;> rw [hr] at hs
  · exact IsTrans.trans _ _ _ hs (hf f s')
  · exact hs
  · exact hs

section

variable {w : Surroundings} {path : Files.Path}

theorem readSource_run {text : String} (h : w.files.readText path = .ok text) (kind : FaultKind)
    (s : ApplyState) : readSource w kind path s = (.ok text, s) := by
  rw [readSource, h]
  rfl

theorem readSource_run_error {f : Files.ReadFault} (h : w.files.readText path = .error f)
    (kind : FaultKind) (s : ApplyState) : ∃ e, readSource w kind path s = (.error e, s) := by
  rw [readSource, h]
  cases f <;> exact ⟨_, rfl⟩

end

theorem moves_readSource (w : Surroundings) (kind : FaultKind) (path : Files.Path) :
    Moves Q (readSource w kind path) := by
  unfold readSource
  split
  · exact moves_pure _
  · exact moves_fail _
  · exact moves_throw _
  · exact moves_throw _

end Apply

end KernelConfig
