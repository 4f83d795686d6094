import KernelConfig.Proofs.Apply.FatalRuns
import KernelConfig.Proofs.Apply.Notes
import KernelConfig.Proofs.Apply.Runner

/-!
The verdict on a script: once it has been prepared and gives a reply that can be read, its context is
completed or fails, and what has happened during its run decides with which fault.
-/

set_option autoImplicit false

namespace KernelConfig.Context

open Script

/-! ### The run of a script -/

section

variable {w : Surroundings}

theorem stage_prepare {c c' : Context} (h : prepare w c = (.ok (), c')) :
    c'.stage = .namespaceInstalled := by
  obtain ⟨_, _, -, h⟩ := exists_of_bind_run h
  obtain ⟨_, _, -, h⟩ := exists_of_bind_run h
  exact isStep_installNamespace.stage_of_ok h

/-- A prepared context begins to run the main function of a script: it calls the runner of the prelude. -/
inductive Begins (chunk : Chunk) : Context → Value → Context → Machine → Prop
  | intro {c : Context} {m : Machine} {hooks : PreludeHooks} (hm : c.machine = some m)
      (hhooks : c.hooks = some hooks) :
      Begins chunk c (loadChunk m.store chunk).2
        { c with stage := .userScriptRunning, machine := none }
        ({ m with store := (loadChunk m.store chunk).1, ticks := c.shared.ticks }.invoke hooks.run
          [(loadChunk m.store chunk).2])

variable {c c₁ c' : Context} {m m' : Machine} {main : Value} {chunk : Chunk} {vs : List Value}

theorem source_run (c : Context) : source c = (.ok c.caller.source, c) := rfl

theorem runScript_compileError (hstage : c.stage = .namespaceInstalled) (hm : c.machine = some m)
    {message : Bytes} (hcompile : compileScript c.caller.source c.code = .error message) :
    runScript w c = (.error (.fault (scriptFault .script c.caller.source
      (orText (.text (Text.decodeUtf8Lossy message)) "syntax error") .null)),
        { c with stage := .userScriptRunning }) := by
  have hruntime : runtime { c with stage := .userScriptRunning } =
      (.ok m, { c with stage := .userScriptRunning }) := runtime_of_machine hm
  unfold runScript
  rw [bind_run_ok (advance_of_stage hstage _), bind_run_ok hruntime, bind_run_ok (source_run _),
    bind_run_ok (get_run _)]
  dsimp only
  rw [hcompile]
  rfl

/-- The call of the runner, and what is made of its reply. -/
theorem runScript_called (hstage : c₁.stage = .namespaceInstalled)
    (hcompile : compileScript c₁.caller.source c₁.code = .ok chunk) (hb : Begins chunk c₁ main c m) :
    ∃ run c₂, runScript w c₁ = (do
        let reply ← callOrThrow w run [main]
        concluded w ((← runtime).data reply)) c₂ ∧
      call w run [main] c₂ =
        let served := serve w Machine.plenty c m
        (.ok served.1, { served.2.2 with
          machine := some served.2.1
          shared := { served.2.2.shared with ticks := served.2.1.ticks } }) := by
  cases hb with
  | @intro m hooks hm hhooks =>
    have hruntime : runtime { c₁ with stage := .userScriptRunning } =
        (.ok m, { c₁ with stage := .userScriptRunning }) := runtime_of_machine hm
    unfold runScript
    rw [bind_run_ok (advance_of_stage hstage _), bind_run_ok hruntime, bind_run_ok (source_run _),
      bind_run_ok (get_run _)]
    dsimp only
    rw [hcompile]
    let c₂ : Context := { c₁ with
      stage := .userScriptRunning, machine := some { m with store := (loadChunk m.store chunk).1 } }
    have hset : setRuntime { m with store := (loadChunk m.store chunk).1 }
        { c₁ with stage := .userScriptRunning } = (.ok (), c₂) := rfl
    have hhook : hook "__ak_run" (·.run) c₂ = (.ok hooks.run, c₂) := by
      unfold hook
      rw [bind_run_ok (get_run c₂), show c₂.hooks = some hooks from hhooks]
      rfl
    have hcall : call w hooks.run [(loadChunk m.store chunk).2] c₂ = _ :=
      callWithin_run Machine.plenty rfl
    refine ⟨hooks.run, c₂, ?_, hcall⟩
    dsimp only
    rw [bind_run_ok hset, bind_run_ok hhook]
    rfl

end

/-! ### The verdict -/

theorem execute_steps (w : Surroundings) (c : Context) : execute w c =
    let (r, c) := (prepare w >>= fun _ => runScript w) c
    (r, { c with
      machine := none, hooks := none
      stage := match r with
        | .ok () => .completed
        | .error (.fault _) => .failed
        | .error (.mishap _) => c.stage }) := by
  have hsteps : (prepare w >>= fun _ => runScript w) = (do
      loadPrelude w
      installApi w
      installNamespace w
      runScript w : Stepping Unit) := by
    simp only [prepare, bind_assoc]
  rw [hsteps]
  unfold execute
  dsimp only
  generalize (do
      loadPrelude w
      installApi w
      installNamespace w
      runScript w : Stepping Unit) c = end_
  rcases end_ with ⟨(f | m) | _, c'⟩ <;> rfl

theorem execute_of_prepared {w : Surroundings} {c c₁ : Context} (h : prepare w c = (.ok (), c₁)) :
    execute w c = ((runScript w c₁).1, { (runScript w c₁).2 with
      machine := none, hooks := none
      stage := match (runScript w c₁).1 with
        | .ok () => .completed
        | .error (.fault _) => .failed
        | .error (.mishap _) => (runScript w c₁).2.stage }) := by
  rw [execute_steps, bind_run_ok h]
  rfl

theorem silent_of_prepared {w : Surroundings} {c c₀ : Context} (hfresh : Fresh c)
    (h : prepare w c = (.ok (), c₀)) : Silent c c₀ ∧ Namespaced w c₀ := by
  obtain ⟨hsilent, hnamespaced⟩ := (prepares_all (w := w)).precedes c hfresh
  rw [h] at hsilent hnamespaced
  exact ⟨hsilent, hnamespaced () rfl⟩

theorem Begins.context {chunk : Chunk} {c₀ c : Context} {main : Value} {m : Machine}
    (h : Begins chunk c₀ main c m) : c.caller = c₀.caller ∧ c.fatal = c₀.fatal ∧
      c.timedOut = c₀.timedOut ∧ c.stage = .userScriptRunning := by
  cases h
  exact ⟨rfl, rfl, rfl, rfl⟩

theorem Begins.shared {chunk : Chunk} {c₀ c : Context} {main : Value} {m : Machine}
    (h : Begins chunk c₀ main c m) : c.shared = c₀.shared := by
  cases h
  rfl

section

variable {w : Surroundings} {c c₀ : Context} {chunk : Chunk} {b : Bool}

theorem Begins.unique {c c' : Context} {main main' : Value} {m m' : Machine}
    (h : Begins chunk c₀ main c m) (h' : Begins chunk c₀ main' c' m') :
    main = main' ∧ c = c' ∧ m = m' := by
  cases h with
  | intro hm hhooks =>
    cases h' with
    | intro hm' hhooks' =>
      cases hm.symm.trans hm'
      cases hhooks.symm.trans hhooks'
      exact ⟨rfl, rfl, rfl⟩

end

/-! A script that raises an error. -/

end KernelConfig.Context
