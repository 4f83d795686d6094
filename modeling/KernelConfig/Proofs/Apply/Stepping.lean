import KernelConfig.Apply.Source
import KernelConfig.Proofs.Apply.Run

/-!
What the steps of a context can do, whatever its script does: keep books, and use capabilities.
-/

set_option autoImplicit false

namespace KernelConfig.Context

theorem runtime_run (c : Context) : runtime c = match c.machine with
    | some m => (.ok m, c)
    | none => (.error (.fault (closedFault c.caller.source)), c) := by
  obtain ⟨_, _, _, machine, _, _, _, _, _⟩ := c
  cases machine <;> rfl

theorem runtime_of_machine {c : Context} {m : Script.Machine} (hm : c.machine = some m) :
    runtime c = (.ok m, c) := by
  rw [runtime_run, hm]

/-- What a step is refused with that is called at another stage. -/
def outOfTurn (c : Context) (expected : Stage) : Fault :=
  Fault.of .internalBridge ("execution context for " ++ c.caller.source ++ " is " ++ c.stage.name
    ++ ", expected " ++ expected.name)

theorem advance_run (expected next : Stage) (c : Context) :
    advance expected next c =
      if c.stage = expected then (.ok (), { c with stage := next })
      else (.error (.fault (outOfTurn c expected)), c) := by
  unfold advance
  rw [bind_run_ok (get_run c)]
  split <;> rfl

theorem advance_of_stage {expected : Stage} {c : Context} (h : c.stage = expected) (next : Stage) :
    advance expected next c = (.ok (), { c with stage := next }) := by
  rw [advance_run, if_pos h]

/-- A call goes on with the context that serving it leaves. -/
theorem callWithin_run {w : Surroundings} (fuel : Nat) {f : Script.Value}
    {arguments : List Script.Value} {c : Context} {m : Script.Machine} (hm : c.machine = some m) :
    callWithin w fuel f arguments c =
      let served := serve w fuel { c with machine := none }
        ({ m with ticks := c.shared.ticks }.invoke f arguments)
      (.ok served.1, { served.2.2 with
        machine := some served.2.1
        shared := { served.2.2.shared with ticks := served.2.1.ticks } }) := by
  unfold callWithin
  rw [bind_run_ok (runtime_of_machine hm), bind_run_ok (modify_run _ c), bind_run_ok (get_run _),
    bind_run_ok (get_run _)]
  rfl

theorem callWithin_run_closed {w : Surroundings} (fuel : Nat) {f : Script.Value}
    {arguments : List Script.Value} {c : Context} (hm : c.machine = none) :
    callWithin w fuel f arguments c = (.error (.fault (closedFault c.caller.source)), c) := by
  unfold callWithin
  rw [bind_run_error (by rw [runtime_run, hm])]

/-- What bookkeeping leaves as it is. -/
structure Core where
  caller : Caller
  fatal : Option Fault
  table : SymbolTable
  journal : List Apply.Event
  bound : Fields

def core (c : Context) : Core :=
  ⟨c.caller, c.fatal, c.shared.table, c.shared.journal, c.shared.logger.bound⟩

theorem core_sharing_log (level : Log.Level) (name : String) (fields : Fields) (c : Context) :
    (sharing (Apply.log level name fields) c).2.core = c.core :=
  congrArg (Core.mk _ _ _ _) (Log.Logger.bound_emit _ _)

/-- A relation between contexts that each use of a capability stays in, and all bookkeeping but that of the
stage. -/
structure Steady (w : Surroundings) (Q : Context → Context → Prop) : Prop extends
    IsPreorder Context Q where
  bookkeeping : ∀ c c' : Context, c'.stage = c.stage → c'.core = c.core → Q c c'
  use : ∀ c what arguments, Q c (useCapability w c what arguments).2

namespace Steady

variable {w : Surroundings} {Q : Context → Context → Prop} (h : Steady w Q)

include h

theorem checkDeadline (c : Context) (ticks : Nat) : Q c (checkDeadline w c ticks).2 := by
  unfold Context.checkDeadline
  split
  · exact h.refl c
  · split
    · exact h.refl c
    · exact h.bookkeeping _ _ rfl rfl

theorem respond (c : Context) (m : Script.Machine) (name : String) (arguments : List Script.Value) :
    Q c (respond w c m name arguments).2 := by
  unfold Context.respond
  split
  · exact h.refl c
  · split
    · exact h.refl c
    · split
      · exact h.checkDeadline c m.ticks
      · split
        · exact h.use c _ _
        · exact h.refl c

theorem answer (c : Context) (m : Script.Machine) (name : String) (arguments : List Script.Value) :
    Q c (answer w c m name arguments).2 := by
  have htick : Q c { c with shared := { c.shared with ticks := m.ticks } } :=
    h.bookkeeping _ _ rfl rfl
  have hrespond := h.trans _ _ _ htick (h.respond _ m name arguments)
  unfold Context.answer
  dsimp only
  split <;> exact hrespond

theorem serve (fuel : Nat) (c : Context) (m : Script.Machine) : Q c (serve w fuel c m).2.2 := by
  -- Each answer is one use of a capability at most.
  induction fuel generalizing c m with
  | zero => exact h.refl c
  | succ fuel ih =>
    unfold Context.serve
    dsimp only
    split
    · exact h.refl c
    · exact h.trans _ _ _ (h.answer _ _ _ _) (ih _ _)
    · exact h.refl c

theorem modify {f : Context → Context}
    (hf : ∀ c, (f c).stage = c.stage ∧ (f c).core = c.core) : Moves Q (modify f : Stepping Unit) :=
  fun c => h.bookkeeping c (f c) (hf c).1 (hf c).2

theorem runtime : Moves Q runtime := by
  intro c
  rw [runtime_run]
  cases c.machine <;> exact h.refl c

theorem setRuntime (m : Script.Machine) : Moves Q (setRuntime m) :=
  h.modify fun _ => ⟨rfl, rfl⟩

theorem callWithin (fuel : Nat) (f : Script.Value) (arguments : List Script.Value) :
    Moves Q (callWithin w fuel f arguments) := by
  intro c
  cases hm : c.machine with
  | none =>
    rw [callWithin_run_closed fuel hm]
    exact h.refl c
  | some m =>
    rw [callWithin_run fuel hm]
    have hopen : Q c { c with machine := none } := h.bookkeeping _ _ rfl rfl
    exact h.trans _ _ _ (h.trans _ _ _ hopen (h.serve _ _ _)) (h.bookkeeping _ _ rfl rfl)

theorem callOrThrow (f : Script.Value) (arguments : List Script.Value) :
    Moves Q (callOrThrow w f arguments) := by
  have := h.toIsPreorder
  refine moves_bind (h.callWithin _ f arguments) fun r => ?_
  split
  · exact moves_pure _
  · exact moves_throw _
  · exact moves_throw _

theorem callInternal (failing : String) (f : Script.Value) (arguments : List Script.Value) :
    Moves Q (callInternal w failing f arguments) := by
  have := h.toIsPreorder
  refine moves_bind (h.callWithin _ f arguments) fun r => ?_
  split
  · exact moves_pure _
  · exact moves_throw _
  · exact moves_throw _

theorem withStore (f : Script.Store → Script.Store) : Moves Q (withStore f) := by
  have := h.toIsPreorder
  exact moves_bind h.runtime fun m => h.setRuntime _

theorem takeGlobal (name : String) : Moves Q (takeGlobal name) := by
  have := h.toIsPreorder
  exact moves_bind h.runtime fun m => moves_bind (h.setRuntime _) fun _ => moves_pure _

theorem hook (name : String) (f : PreludeHooks → Script.Value) : Moves Q (hook name f) := by
  have := h.toIsPreorder
  refine moves_bind moves_get fun c => ?_
  split
  · exact moves_pure _
  · exact moves_throw _

theorem source : Moves Q source := by
  have := h.toIsPreorder
  exact moves_bind moves_get fun c => moves_pure _

theorem wrapped (what : Capability) (level : Int64) : Moves Q (wrapped w what level) := by
  have := h.toIsPreorder
  refine moves_bind (h.hook _ _) fun f => moves_bind (h.callInternal _ f _) fun vs => moves_pure _

theorem wrappedMembers (members : List Capability) : Moves Q (wrappedMembers w members) := by
  have := h.toIsPreorder
  induction members with
  | nil => exact moves_pure _
  | cons what rest ih =>
    exact moves_bind (h.wrapped what 2) fun f => moves_bind ih fun fs => moves_pure _

theorem sharing_log (level : Log.Level) (name : String) (fields : Fields) :
    Moves Q (sharing (Apply.log level name fields)) :=
  fun c => h.bookkeeping c _ rfl (core_sharing_log level name fields c)

theorem conclude (failed : Option (Datum × Datum)) : Moves Q (conclude w failed) := by
  have := h.toIsPreorder
  refine moves_bind moves_get fun c => ?_
  split
  · exact moves_throw _
  · simp only
    split
    · exact moves_throw _
    · split
      · exact moves_throw _
      · exact moves_pure _

end Steady

/-! ### Steps -/

/-- What runs the script is gone. -/
structure IsClosed (c : Context) : Prop where
  machine : c.machine = none
  hooks : c.hooks = none

/-- A step first notes its stage. Its work, whatever it does, leaves the stage, and it does nothing in a
context that is closed. -/
def IsStep (w : Surroundings) (expected next : Stage) (step : Stepping Unit) : Prop :=
  ∃ work : Stepping Unit, step = (advance expected next >>= fun _ => work) ∧
    (∀ Q, Steady w Q → Moves Q work) ∧ ∀ c : Context, c.IsClosed → ∃ e, work c = (.error e, c)

/-- The stage has not been changed. -/
def SameStage (c c' : Context) : Prop := c'.stage = c.stage

/-- What a script asks for leaves the stage of its context. -/
theorem steady_sameStage (w : Surroundings) : Steady w SameStage where
  refl _ := rfl
  trans _ _ _ hab hbc := Eq.trans hbc hab
  bookkeeping _ _ hstage _ := hstage
  use c what arguments := by
    unfold useCapability
    generalize Apply.used w c.caller what arguments c.shared = result
    obtain ⟨(f | m) | results, shared⟩ := result
    · dsimp only
      split <;> rfl
    · rfl
    · rfl

namespace IsStep

variable {w : Surroundings} {expected next : Stage} {step : Stepping Unit}
  (h : IsStep w expected next step) {c : Context}

include h

theorem run_outOfTurn (hstage : c.stage ≠ expected) :
    step c = (.error (.fault (outOfTurn c expected)), c) := by
  obtain ⟨work, rfl, -, -⟩ := h
  exact bind_run_error (by rw [advance_run, if_neg hstage])

/-- What a step does in its turn, the stage being noted. -/
theorem moves {Q : Context → Context → Prop} (hQ : Steady w Q) (hstage : c.stage = expected) :
    Q { c with stage := next } (step c).2 := by
  obtain ⟨work, rfl, hwork, -⟩ := h
  rw [bind_run_ok (advance_of_stage hstage next)]
  exact hwork Q hQ _

theorem stage (hstage : c.stage = expected) : (step c).2.stage = next :=
  h.moves (steady_sameStage w) hstage

theorem stage_of_ok {c' : Context} (hok : step c = (.ok (), c')) : c'.stage = next := by
  by_cases hstage : c.stage = expected
  · have hafter := h.stage hstage
    rwa [hok] at hafter
  · rw [h.run_outOfTurn hstage] at hok
    cases hok

/-- A step of a context that is closed notes its stage, and no more. -/
theorem run_closed (hstage : c.stage = expected) (hc : c.IsClosed) :
    ∃ e, step c = (.error e, { c with stage := next }) := by
  obtain ⟨work, rfl, -, hclosed⟩ := h
  rw [bind_run_ok (advance_of_stage hstage next)]
  exact hclosed { c with stage := next } ⟨hc.machine, hc.hooks⟩

end IsStep

section

variable {w : Surroundings} {c : Context}

theorem runtime_of_closed (h : c.IsClosed) :
    runtime c = (.error (.fault (closedFault c.caller.source)), c) := by
  rw [runtime_run, h.machine]

theorem hook_of_closed (h : c.IsClosed) (name : String) (f : PreludeHooks → Script.Value) :
    hook name f c = (.error (.mishap (.missingKey name)), c) := by
  unfold hook
  rw [bind_run_ok (get_run c), h.hooks]
  rfl

theorem isStep_loadPrelude : IsStep w .created .preludeLoaded (loadPrelude w) := by
  refine ⟨_, rfl, fun Q h => ?_, fun c hc => ⟨_, bind_run_error (runtime_of_closed hc)⟩⟩
  have := h.toIsPreorder
  refine moves_bind h.runtime fun m => moves_bind (h.setRuntime _) fun _ => ?_
  refine moves_bind (h.callInternal _ _ _) fun _ => moves_bind (h.takeGlobal _) fun _ => ?_
  refine moves_bind (h.takeGlobal _) fun _ => moves_bind (h.takeGlobal _) fun _ => ?_
  refine moves_bind (h.takeGlobal _) fun _ => moves_bind (h.takeGlobal _) fun _ => ?_
  exact h.modify fun _ => ⟨rfl, rfl⟩

theorem isStep_installApi : IsStep w .preludeLoaded .apiInstalled (installApi w) := by
  refine ⟨_, rfl, fun Q h => ?_, fun c hc => ⟨_, bind_run_error (hook_of_closed hc _ _)⟩⟩
  have := h.toIsPreorder
  refine moves_bind (h.hook _ _) fun _ => ?_
  refine moves_bind moves_get fun c => moves_bind (h.wrappedMembers _) fun members => ?_
  refine moves_bind (h.withStore _) fun _ => ?_
  refine moves_bind (h.wrapped _ _) fun f => moves_bind (h.withStore _) fun _ => ?_
  refine moves_bind (h.wrapped _ _) fun f => moves_bind (h.withStore _) fun _ => ?_
  refine moves_bind (h.hook _ _) fun bind => moves_bind (h.wrapped _ _) fun f => ?_
  refine moves_bind (h.callInternal _ _ _) fun _ => ?_
  have hsandbox : Moves Q (if w.settings.sandbox then Context.withStore restrict else pure ()) := by
    split
    · exact h.withStore _
    · exact moves_pure _
  lift_lets
  intro rest
  have hrest : Moves Q (rest ()) := hsandbox
  split
  · refine moves_bind (h.modify fun _ => ⟨rfl, rfl⟩) fun _ => ?_
    exact moves_bind (h.hook _ _) fun _ => moves_bind (h.callInternal _ _ _) fun _ => hrest
  · exact hrest

theorem isStep_installNamespace : IsStep w .apiInstalled .namespaceInstalled (installNamespace w) := by
  refine ⟨_, rfl, fun Q h => ?_, fun c hc => ?_⟩
  · have := h.toIsPreorder
    refine moves_bind moves_get fun c => ?_
    split
    · exact moves_throw _
    · refine moves_bind h.runtime fun m => moves_bind (h.setRuntime _) fun _ => ?_
      refine moves_bind (h.hook _ _) fun define => moves_bind (h.callInternal _ _ _) fun _ => ?_
      exact moves_bind moves_get fun c => h.sharing_log _ _ _
  · rw [bind_run_ok (get_run c)]
    cases hplan : Namespace.plan w.settings.symbolLead c.shared.table.names with
    | error f => exact ⟨_, rfl⟩
    | ok bindings => exact ⟨_, bind_run_error (runtime_of_closed hc)⟩

theorem isStep_runScript : IsStep w .namespaceInstalled .userScriptRunning (runScript w) := by
  refine ⟨_, rfl, fun Q h => ?_, fun c hc => ⟨_, bind_run_error (runtime_of_closed hc)⟩⟩
  have := h.toIsPreorder
  refine moves_bind h.runtime fun m => moves_bind h.source fun source => moves_bind moves_get fun c => ?_
  split
  · exact moves_throw _
  · refine moves_bind (h.setRuntime _) fun _ => moves_bind (h.hook _ _) fun run => ?_
    refine moves_bind (h.callOrThrow _ _) fun reply => moves_bind h.runtime fun m => ?_
    split
    · exact moves_throw _
    · exact h.conclude _
    · exact h.conclude _

end

/-! ### Relations that do not look at the stage -/

/-- A relation between contexts that bookkeeping and each use of a capability stay in. -/
structure Tolerant (w : Surroundings) (Q : Context → Context → Prop) : Prop extends
    IsPreorder Context Q where
  bookkeeping : ∀ c c' : Context, c'.core = c.core → Q c c'
  use : ∀ c what arguments, Q c (useCapability w c what arguments).2

namespace Tolerant

variable {w : Surroundings} {Q : Context → Context → Prop} (h : Tolerant w Q)

include h

theorem steady : Steady w Q where
  toIsPreorder := h.toIsPreorder
  bookkeeping c c' _ := h.bookkeeping c c'
  use := h.use

theorem advance (expected next : Stage) : Moves Q (advance expected next) := by
  intro c
  rw [advance_run]
  split
  · exact h.bookkeeping _ _ rfl
  · exact h.refl c

theorem step {expected next : Stage} {step : Stepping Unit} (hstep : IsStep w expected next step) :
    Moves Q step := by
  have := h.toIsPreorder
  obtain ⟨work, rfl, hwork, -⟩ := hstep
  exact moves_bind (h.advance _ _) fun _ => hwork Q h.steady

theorem steps : Moves Q (do
    Context.loadPrelude w
    Context.installApi w
    Context.installNamespace w
    Context.runScript w) := by
  have := h.toIsPreorder
  refine moves_bind (h.step isStep_loadPrelude) fun _ => moves_bind (h.step isStep_installApi) fun _ => ?_
  exact moves_bind (h.step isStep_installNamespace) fun _ => h.step isStep_runScript

theorem execute : Moves Q (execute w) := by
  intro c
  have hs := h.steps c
  refine h.trans _ _ _ hs ?_
  unfold Context.execute
  dsimp only
  generalize (do
    Context.loadPrelude w
    Context.installApi w
    Context.installNamespace w
    Context.runScript w : Stepping Unit) c = result
  obtain ⟨(f | m) | _, c'⟩ := result
  · exact h.bookkeeping _ _ rfl
  · exact h.bookkeeping _ _ rfl
  · exact h.bookkeeping _ _ rfl

end Tolerant

end KernelConfig.Context
