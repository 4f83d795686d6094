import KernelConfig.Proofs.Apply.Loading

/-!
The life of a context. Whatever is called in it, and in whatever order, it only goes forward and runs its
script once; a call that comes out of its turn is refused.
-/

set_option autoImplicit false

namespace KernelConfig

/-- How far a context has come. -/
def Stage.rank : Stage → Nat
  | created => 0
  | preludeLoaded => 1
  | apiInstalled => 2
  | namespaceInstalled => 3
  | userScriptRunning => 4
  | completed => 5
  | failed => 5

namespace Context

open Script

/-! ### Calls -/

/-- What a program can call in a context. -/
inductive Call where
  | loadPrelude
  | installApi
  | installNamespace
  | runScript
  | execute
  | close
  deriving DecidableEq

namespace Call

def run (w : Surroundings) : Call → Stepping Unit
  | loadPrelude => Context.loadPrelude w
  | installApi => Context.installApi w
  | installNamespace => Context.installNamespace w
  | runScript => Context.runScript w
  | execute => Context.execute w
  | close => Context.close

/-- The stage at which a call has its turn. A context can be closed at any. -/
def turn : Call → Option Stage
  | loadPrelude => some .created
  | installApi => some .preludeLoaded
  | installNamespace => some .apiInstalled
  | runScript => some .namespaceInstalled
  | execute => some .created
  | close => none

/-- A step that comes before the script. -/
def IsPreparing (call : Call) : Prop :=
  call = loadPrelude ∨ call = installApi ∨ call = installNamespace

/-- A call is a step, or drives through all of them, or closes the context. -/
theorem kinds (w : Surroundings) (call : Call) :
    (∃ expected next, call.turn = some expected ∧ call ≠ execute ∧ next.rank = expected.rank + 1 ∧
      IsStep w expected next (call.run w)) ∨ call = execute ∨ call = close := by
  cases call with
  | loadPrelude => exact .inl ⟨_, _, rfl, by simp, rfl, isStep_loadPrelude⟩
  | installApi => exact .inl ⟨_, _, rfl, by simp, rfl, isStep_installApi⟩
  | installNamespace => exact .inl ⟨_, _, rfl, by simp, rfl, isStep_installNamespace⟩
  | runScript => exact .inl ⟨_, _, rfl, by simp, rfl, isStep_runScript⟩
  | execute => exact .inr (.inl rfl)
  | close => exact .inr (.inr rfl)

theorem rank_of_turn {call : Call} {stage : Stage} (h : call.turn = some stage) : stage.rank ≤ 3 := by
  cases call <;> cases h <;> simp [Stage.rank]

theorem of_turn_created {call : Call} (h : call.turn = some .created) :
    call = loadPrelude ∨ call = execute := by
  cases call <;> simp_all [turn]

theorem of_turn_preludeLoaded {call : Call} (h : call.turn = some .preludeLoaded) :
    call = installApi := by
  cases call <;> simp_all [turn]

theorem of_turn_apiInstalled {call : Call} (h : call.turn = some .apiInstalled) :
    call = installNamespace := by
  cases call <;> simp_all [turn]

theorem of_turn_namespaceInstalled {call : Call} (h : call.turn = some .namespaceInstalled) :
    call = runScript := by
  cases call <;> simp_all [turn]

end Call

section

variable {w : Surroundings} {c : Context} {call : Call}

/-! ### The drive through all steps -/

theorem execute_outOfTurn (h : c.stage ≠ .created) :
    execute w c = (.error (.fault (outOfTurn c .created)),
      { c with stage := .failed, machine := none, hooks := none }) := by
  have hprepare : prepare w c = (.error (.fault (outOfTurn c .created)), c) :=
    bind_run_error (isStep_loadPrelude.run_outOfTurn h)
  rw [execute_steps, bind_run_error hprepare]

theorem isClosed_execute (c : Context) : (execute w c).2.IsClosed := by
  rw [execute_steps]
  exact ⟨rfl, rfl⟩

theorem execute_closed (hstage : c.stage = .created) (hc : c.IsClosed) :
    (execute w c).2.shared = c.shared := by
  obtain ⟨e, he⟩ := isStep_loadPrelude (w := w) |>.run_closed hstage hc
  have hprepare : prepare w c = (.error e, { c with stage := .preludeLoaded }) := bind_run_error he
  rw [execute_steps, bind_run_error hprepare]

/-! ### Going forward -/

def Onward (c c' : Context) : Prop := c.stage.rank ≤ c'.stage.rank

instance : IsPreorder Context Onward where
  refl _ := Nat.le_refl _
  trans _ _ _ := Nat.le_trans

theorem IsStep.onward {expected next : Stage} {step : Stepping Unit} (h : IsStep w expected next step)
    (hrank : expected.rank < next.rank) : Moves Onward step := by
  intro c
  by_cases hstage : c.stage = expected
  · have hnext := h.stage hstage
    simp only [Onward, hnext, hstage]
    omega
  · rw [h.run_outOfTurn hstage]
    exact Nat.le_refl _

theorem execute_onward (c : Context) :
    c.stage.rank < (execute w c).2.stage.rank ∨ (execute w c).2.stage.rank = 5 := by
  by_cases hstage : c.stage = .created
  · -- The first step goes on, and those after it do not go back.
    have hfirst := (isStep_loadPrelude (w := w)).stage hstage
    have hrest : Moves Onward (do
        installApi w
        installNamespace w
        runScript w) :=
      moves_bind (isStep_installApi.onward (by simp [Stage.rank])) fun _ =>
        moves_bind (isStep_installNamespace.onward (by simp [Stage.rank])) fun _ =>
          isStep_runScript.onward (by simp [Stage.rank])
    have hsteps : 1 ≤ ((prepare w >>= fun _ => runScript w) c).2.stage.rank := by
      have heq : (prepare w >>= fun _ => runScript w) = (loadPrelude w >>= fun _ => do
          installApi w
          installNamespace w
          runScript w) := by
        simp only [prepare, bind_assoc]
      rw [heq, bind_run]
      rcases hr : loadPrelude w c with ⟨_ | _, c'⟩ <;> rw [hr] at hfirst <;> dsimp only at hfirst ⊢
      · simp [hfirst, Stage.rank]
      · have hmoves := hrest c'
        simp only [Onward, hfirst, Stage.rank] at hmoves
        exact hmoves
    rw [execute_steps, hstage]
    generalize (prepare w >>= fun _ => runScript w) c = end_ at hsteps
    obtain ⟨(f | m) | _, c'⟩ := end_
    · exact .inr rfl
    · exact .inl hsteps
    · exact .inr rfl
  · rw [execute_outOfTurn hstage]
    exact .inr rfl

/-- A call in its turn goes on. -/
theorem rank_lt_of_turn (h : call.turn = some c.stage) :
    c.stage.rank < (call.run w c).2.stage.rank := by
  rcases call.kinds w with ⟨expected, next, hturn, -, hrank, hstep⟩ | rfl | rfl
  · obtain rfl : expected = c.stage := Option.some.inj (hturn.symm.trans h)
    rw [hstep.stage rfl]
    omega
  · have hle := Call.rank_of_turn h
    have hafter := execute_onward (w := w) c
    simp only [Call.run]
    omega
  · cases h

/-- Out of its turn a call does nothing, or it closes the context at least. -/
theorem run_of_not_turn (h : call.turn ≠ some c.stage) :
    (call.run w c).2 = c ∨ (call.run w c).2.IsClosed ∧ (call.run w c).2.shared = c.shared ∧
      c.stage.rank ≤ (call.run w c).2.stage.rank := by
  rcases call.kinds w with ⟨expected, next, hturn, -, -, hstep⟩ | rfl | rfl
  · rw [hstep.run_outOfTurn fun hstage => h (by rw [hturn, hstage])]
    exact .inl rfl
  · have hstage : c.stage ≠ .created := fun hstage => h (by rw [hstage]; rfl)
    rw [show Call.execute.run w c = _ from execute_outOfTurn hstage]
    exact .inr ⟨⟨rfl, rfl⟩, rfl, by cases c.stage <;> simp [Stage.rank]⟩
  · exact .inr ⟨⟨rfl, rfl⟩, rfl, Nat.le_refl _⟩

end

/-! ### Sequences of calls -/

/-- The context after some calls, whatever came out of them. -/
def reached (w : Surroundings) (c : Context) (calls : List Call) : Context :=
  calls.foldl (fun c call => (call.run w c).2) c

section

variable {w : Surroundings}

@[simp] theorem reached_nil (c : Context) : reached w c [] = c := rfl

@[simp] theorem reached_cons (c : Context) (call : Call) (calls : List Call) :
    reached w c (call :: calls) = reached w (call.run w c).2 calls := by
  rw [reached, List.foldl_cons, reached]

theorem reached_keeps {P : Context → Prop} (h : ∀ (call : Call) c, P c → P (call.run w c).2) {c : Context}
    (hc : P c) (calls : List Call) : P (reached w c calls) := by
  induction calls generalizing c with
  | nil => exact hc
  | cons call calls ih => exact ih (h call c hc)

/-! ### Contexts that start no script any more -/

/-- What starts the script is gone, or the script has been started. -/
def Spent (c : Context) : Prop := c.IsClosed ∨ 4 ≤ c.stage.rank

theorem Spent.run {c : Context} (h : Spent c) (call : Call) :
    Spent (call.run w c).2 ∧ (call.run w c).2.shared = c.shared := by
  by_cases hturn : call.turn = some c.stage
  · have hrank := Call.rank_of_turn hturn
    have hc : c.IsClosed := h.resolve_right (by omega)
    rcases call.kinds w with ⟨expected, next, hturn', -, -, hstep⟩ | rfl | rfl
    · obtain rfl : expected = c.stage := Option.some.inj (hturn'.symm.trans hturn)
      obtain ⟨e, he⟩ := hstep.run_closed rfl hc
      rw [he]
      exact ⟨.inl ⟨hc.machine, hc.hooks⟩, rfl⟩
    · exact ⟨.inl (isClosed_execute c), execute_closed (Option.some.inj hturn).symm hc⟩
    · cases hturn
  · rcases run_of_not_turn (w := w) hturn with heq | ⟨hclosed, hshared, -⟩
    · rw [heq]
      exact ⟨h, rfl⟩
    · exact ⟨.inl hclosed, hshared⟩

theorem Spent.reached {c : Context} (h : Spent c) (calls : List Call) :
    Spent (reached w c calls) ∧ (reached w c calls).shared = c.shared :=
  reached_keeps (P := fun c' => Spent c' ∧ c'.shared = c.shared)
    (fun call _ hc => ⟨(hc.1.run call).1, (hc.1.run call).2.trans hc.2⟩) ⟨h, rfl⟩ calls

/-! ### The start of the script -/

/-- A call starts the script: the runner of the prelude is called with the script's main function, in
this context and this machine. -/
inductive Starts (w : Surroundings) : Call → Context → Value → Context → Machine → Prop
  | script {c c' : Context} {main : Value} {m : Machine} {chunk : Chunk}
      (hstage : c.stage = .namespaceInstalled)
      (hcompile : compileScript c.caller.source c.code = .ok chunk) (hb : Begins chunk c main c' m) :
      Starts w .runScript c main c' m
  | execute {c c₀ c' : Context} {main : Value} {m : Machine} (hprepared : prepare w c = (.ok (), c₀))
      (h : Starts w .runScript c₀ main c' m) : Starts w .execute c main c' m

/-- One of the calls starts the script. -/
def Started (w : Surroundings) (c : Context) (calls : List Call) : Prop :=
  ∃ before call after main c' m, calls = before ++ call :: after ∧
    Starts w call (reached w c before) main c' m

variable {c c' : Context} {call : Call} {main : Value} {m : Machine}

theorem stage_of_prepared {c₀ : Context} (h : prepare w c = (.ok (), c₀)) : c.stage = .created := by
  by_contra hstage
  have herror : prepare w c = (.error (.fault (outOfTurn c .created)), c) :=
    bind_run_error (isStep_loadPrelude.run_outOfTurn hstage)
  cases herror.symm.trans h

theorem Starts.turn (h : Starts w call c main c' m) : call.turn = some c.stage := by
  cases h with
  | script hstage => rw [hstage]; rfl
  | execute hprepared => rw [stage_of_prepared hprepared]; rfl

theorem Starts.rank (h : Starts w call c main c' m) : 4 ≤ (call.run w c).2.stage.rank := by
  cases h with
  | script hstage =>
    simp [Call.run, isStep_runScript.stage hstage, Stage.rank]
  | execute hprepared h =>
    cases h with
    | script hstage =>
      have hrunning := (isStep_runScript (w := w)).stage hstage
      simp only [Call.run, execute_of_prepared hprepared]
      split <;> simp [hrunning, Stage.rank]

theorem Starts.not_isClosed (h : Starts w call c main c' m) : ¬ c.IsClosed := by
  intro hc
  cases h with
  | script hstage hcompile hb =>
    cases hb with
    | intro hm => cases hm.symm.trans hc.machine
  | execute hprepared =>
    obtain ⟨e, he⟩ := (isStep_loadPrelude (w := w)).run_closed (stage_of_prepared hprepared) hc
    have herror : prepare w c = (.error e, { c with stage := .preludeLoaded }) := bind_run_error he
    cases herror.symm.trans hprepared

theorem Spent.not_starts (h : Spent c) : ¬ Starts w call c main c' m := by
  intro hstarts
  have hrank := Call.rank_of_turn hstarts.turn
  exact h.elim hstarts.not_isClosed (by omega)

theorem Starts.spent (h : Starts w call c main c' m) : Spent (call.run w c).2 := .inr h.rank

/-- The run of the script leaves what the call of its main function leaves, at a later time. -/
theorem runScript_shared {c₀ : Context} {chunk : Chunk} (hstage : c₀.stage = .namespaceInstalled)
    (hcompile : compileScript c₀.caller.source c₀.code = .ok chunk) (hb : Begins chunk c₀ main c m) :
    ∃ ticks, (runScript w c₀).2.shared = { (serve w Machine.plenty c m).2.2.shared with ticks } := by
  obtain ⟨run, c₂, hrun, hcall⟩ := runScript_called (w := w) hstage hcompile hb
  refine ⟨(serve w Machine.plenty c m).2.1.ticks, ?_⟩
  rw [hrun]
  dsimp only at hcall
  unfold callOrThrow
  rw [bind_assoc, bind_run_ok hcall]
  split
  · rw [bind_run_ok (pure_run _ _), bind_run_ok (runtime_of_machine rfl)]
    rcases concluded_cases (w := w) (Machine.data _ _) with ⟨mishap, he⟩ | ⟨failed, he⟩
    · rw [he]
      rfl
    · rw [he, conclude_state]
  · rfl
  · rfl

theorem Starts.shared (h : Starts w call c main c' m) :
    ∃ ticks, (call.run w c).2.shared = { (serve w Machine.plenty c' m).2.2.shared with ticks } := by
  cases h with
  | script hstage hcompile hb => exact runScript_shared hstage hcompile hb
  | execute hprepared h =>
    cases h with
    | script hstage hcompile hb =>
      simp only [Call.run, execute_of_prepared hprepared]
      exact runScript_shared hstage hcompile hb

theorem Starts.table (h : Starts w call c main c' m) :
    (call.run w c).2.shared.table = (serve w Machine.plenty c' m).2.2.shared.table := by
  obtain ⟨ticks, hshared⟩ := h.shared
  rw [hshared]

/-! ### From a new context to the start -/

/-- No step before the script fails that is called in its turn in an open context. -/
def PreparesWell (w : Surroundings) : Context → List Call → Prop
  | _, [] => True
  | c, call :: rest =>
    (call.IsPreparing → call.turn = some c.stage → c.machine ≠ none → (call.run w c).1 = .ok ()) ∧
      PreparesWell w (call.run w c).2 rest

/-- How far a new context has come that has not started its script. -/
inductive Phase (w : Surroundings) (new : Context) : Context → Prop
  | new : Phase w new new
  | prelude {c : Context} (h : loadPrelude w new = (.ok (), c)) : Phase w new c
  | api {c₁ c : Context} (h₁ : loadPrelude w new = (.ok (), c₁)) (h : installApi w c₁ = (.ok (), c)) :
      Phase w new c
  | namespaced {c : Context} (h : prepare w new = (.ok (), c)) : Phase w new c
  | spent {c : Context} (h : Spent c) (htable : c.shared.table = new.shared.table) : Phase w new c

variable {new : Context}

/-- A prepared script that is not started has an error in its text. -/
theorem runScript_unstarted {c : Context} (hstage : c.stage = .namespaceInstalled) {m : Machine}
    (hm : c.machine = some m) (hhooks : c.hooks ≠ none)
    (hnone : ∀ main c' m, ¬ Starts w .runScript c main c' m) :
    ∃ e, runScript w c = (.error e, { c with stage := .userScriptRunning }) := by
  cases hcompile : compileScript c.caller.source c.code with
  | error message => exact ⟨_, runScript_compileError hstage hm hcompile⟩
  | ok chunk =>
    obtain ⟨hooks, hhooks⟩ := Option.ne_none_iff_exists'.mp hhooks
    exact absurd (.script hstage hcompile (.intro hm hhooks)) (hnone _ _ _)

theorem stands_of_loaded {c : Context} (hfresh : Fresh new) (h : loadPrelude w new = (.ok (), c)) :
    Silent new c ∧ Stands (Ready none) c := by
  obtain ⟨hsilent, hstands⟩ := (prepares_loadPrelude (w := w)).precedes new hfresh
  rw [h] at hsilent hstands
  exact ⟨hsilent, hstands () rfl⟩

theorem stands_of_installed {c₁ c : Context} (hfresh : Fresh new)
    (h₁ : loadPrelude w new = (.ok (), c₁)) (h : installApi w c₁ = (.ok (), c)) :
    Silent new c ∧ Stands (IsInstalled w) c := by
  obtain ⟨hsilent₁, hstands₁⟩ := stands_of_loaded hfresh h₁
  obtain ⟨hsilent, hstands⟩ := (prepares_installApi (w := w)).precedes c₁ hstands₁
  rw [h] at hsilent hstands
  exact ⟨hsilent₁.trans hsilent, hstands () rfl⟩

theorem Phase.table (hfresh : Fresh new) {c : Context} (h : Phase w new c) :
    c.shared.table = new.shared.table := by
  cases h with
  | new => rfl
  | prelude h => exact (stands_of_loaded hfresh h).1.table
  | api h₁ h => exact (stands_of_installed hfresh h₁ h).1.table
  | namespaced h => exact (silent_of_prepared hfresh h).1.table
  | spent _ htable => exact htable

theorem execute_unstarted (hfresh : Fresh new)
    (hnone : ∀ main c' m, ¬ Starts w .execute new main c' m) :
    (execute w new).2.shared.table = new.shared.table := by
  rcases hprepared : prepare w new with ⟨e | _, c⟩
  · have hsilent := (prepares_all (w := w) new hfresh).1
    rw [hprepared] at hsilent
    rw [execute_steps, bind_run_error hprepared]
    exact hsilent.table
  · obtain ⟨hsilent, _, -, ⟨m, hm, -⟩, hhooks⟩ := silent_of_prepared hfresh hprepared
    obtain ⟨e, he⟩ := runScript_unstarted (stage_prepare hprepared) hm (by simp [hhooks])
      fun main c' m h => hnone main c' m (.execute hprepared h)
    rw [execute_of_prepared hprepared, he]
    exact hsilent.table

theorem Phase.run (hfresh : Fresh new) (hcreated : new.stage = .created) {c : Context}
    (h : Phase w new c) (call : Call)
    (hwell : call.IsPreparing → call.turn = some c.stage → c.machine ≠ none →
      (call.run w c).1 = .ok ())
    (hnone : ∀ main c' m, ¬ Starts w call c main c' m) : Phase w new (call.run w c).2 := by
  by_cases hturn : call.turn = some c.stage
  · have hok : call.IsPreparing → c.machine ≠ none → call.run w c = (.ok (), (call.run w c).2) :=
      fun hp hm => Prod.ext (hwell hp hturn hm) rfl
    cases h with
    | new =>
      obtain ⟨environment, hm⟩ := hfresh
      rcases Call.of_turn_created (hcreated ▸ hturn) with rfl | rfl
      · exact .prelude (hok (.inl rfl) (by simp [hm]))
      · exact .spent (.inl (isClosed_execute new)) (execute_unstarted ⟨environment, hm⟩ hnone)
    | prelude h =>
      obtain ⟨-, ⟨m, hm, -⟩, -⟩ := stands_of_loaded hfresh h
      obtain rfl := Call.of_turn_preludeLoaded (isStep_loadPrelude.stage_of_ok h ▸ hturn)
      exact .api h (hok (.inr (.inl rfl)) (by simp [hm]))
    | api h₁ h =>
      obtain ⟨-, ⟨m, hm, -⟩, -⟩ := stands_of_installed hfresh h₁ h
      obtain rfl := Call.of_turn_apiInstalled (isStep_installApi.stage_of_ok h ▸ hturn)
      refine .namespaced ?_
      unfold prepare
      rw [bind_run_ok h₁, bind_run_ok h]
      exact hok (.inr (.inr rfl)) (by simp [hm])
    | namespaced h =>
      obtain ⟨hsilent, _, -, ⟨m, hm, -⟩, hhooks⟩ := silent_of_prepared hfresh h
      have hstage := stage_prepare h
      obtain rfl := Call.of_turn_namespaceInstalled (hstage ▸ hturn)
      obtain ⟨e, he⟩ := runScript_unstarted hstage hm (by simp [hhooks]) hnone
      rw [show Call.runScript.run w c = _ from he]
      exact .spent (.inr (by simp [Stage.rank])) hsilent.table
    | spent h htable => exact .spent (h.run call).1 ((congrArg _ (h.run call).2).trans htable)
  · rcases run_of_not_turn (w := w) hturn with heq | ⟨hclosed, hshared, -⟩
    · rw [heq]
      exact h
    · exact .spent (.inl hclosed) ((congrArg _ hshared).trans (h.table hfresh))

theorem Phase.reached (hfresh : Fresh new) (hcreated : new.stage = .created) {calls : List Call}
    {c : Context} (h : Phase w new c) (hwell : PreparesWell w c calls) (hnone : ¬ Started w c calls) :
    Phase w new (Context.reached w c calls) := by
  -- The first call may start the script, or one of those that are left.
  induction calls generalizing c with
  | nil => exact h
  | cons call calls ih =>
    refine ih (h.run hfresh hcreated call hwell.1 fun main c' m hstarts => ?_) hwell.2 ?_
    · exact hnone ⟨[], call, calls, main, c', m, rfl, hstarts⟩
    · rintro ⟨before, call', after, main, c', m, rfl, hstarts⟩
      exact hnone ⟨call :: before, call', after, main, c', m, rfl, hstarts⟩

theorem PreparesWell.left {calls calls' : List Call} {c : Context}
    (h : PreparesWell w c (calls ++ calls')) : PreparesWell w c calls := by
  induction calls generalizing c with
  | nil => trivial
  | cons call calls ih => exact ⟨h.1, ih h.2⟩

/-- What a start comes after: the three steps before the script, each of them done. -/
theorem Phase.starts (hcreated : new.stage = .created) {c c' : Context} {call : Call} {main : Value}
    {m : Machine} (h : Phase w new c) (hstarts : Starts w call c main c' m) :
    ∃ c₀, prepare w new = (.ok (), c₀) ∧
      (call = .runScript ∧ c = c₀ ∨ call = .execute ∧ c = new) := by
  have hturn := hstarts.turn
  cases h with
  | new =>
    cases hstarts with
    | script hstage => cases hcreated.symm.trans hstage
    | execute hprepared => exact ⟨_, hprepared, .inr ⟨rfl, rfl⟩⟩
  | prelude h =>
    obtain rfl := Call.of_turn_preludeLoaded (isStep_loadPrelude.stage_of_ok h ▸ hturn)
    cases hstarts
  | api h₁ h =>
    obtain rfl := Call.of_turn_apiInstalled (isStep_installApi.stage_of_ok h ▸ hturn)
    cases hstarts
  | namespaced h =>
    obtain rfl := Call.of_turn_namespaceInstalled (stage_prepare h ▸ hturn)
    exact ⟨c, h, .inl ⟨rfl, rfl⟩⟩
  | spent h => exact absurd hstarts h.not_starts

end

def lenient : Surroundings where
  settings := { strictSymbols := false }

def lenientScript : Source where
  kind := .script
  name := "main.lua"
  text := "pcall(symbol_set, 'NOPE', true)\nFOO(true)"

def lenientStart : ApplyState where
  table := { symbols := [{ name := "FOO", type := .boolean }] }

def lenientCaller : Caller where
  source := lenientScript.name
  depth := 0
  loader := Apply.loader lenient 0

def lenientShared : ApplyState :=
  (Apply.scriptStart lenientScript.name 0 lenientStart).note (.opened 0 lenientScript.name)

def lenientContext : Context := Context.new lenient lenientCaller lenientScript.text lenientShared

theorem lenient_runs :
    let end_ := (prepare lenient >>= fun _ => runScript lenient) lenientContext
    (end_.1.isOk && end_.2.shared.journal.all fun e => !e.isLoad) = true := by
  delta prepare loadPrelude
  rw [chunk_eq, text_eq]
  decide +kernel

theorem exists_of_isOk {step : Stepping Unit} {c : Context} (h : (step c).1.isOk = true) :
    ∃ c', step c = (.ok (), c') := by
  rcases hr : step c with ⟨_ | _, c'⟩
  · rw [hr] at h
    cases h
  · exact ⟨c', rfl⟩

theorem lenient_prepared : ∃ c₀ c₁, prepare lenient lenientContext = (.ok (), c₀) ∧
    runScript lenient c₀ = (.ok (), c₁) ∧ ∀ e ∈ c₁.shared.journal, e.isLoad = false := by
  obtain ⟨hok, hloads⟩ := Bool.and_eq_true_iff.mp lenient_runs
  obtain ⟨c₁, hend⟩ := exists_of_isOk hok
  rw [hend, List.all_eq_true] at hloads
  obtain ⟨_, c₀, hprepared, hrun⟩ := exists_of_bind_run hend
  exact ⟨c₀, c₁, hprepared, hrun, fun e he => by simpa using hloads e he⟩

section

variable {w : Surroundings} {c : Context} {call : Call} {stage : Stage}

/-- Each call but the closing is refused in the same way that comes out of its turn. -/
theorem run_refused (hturn : call.turn = some stage) (hstage : c.stage ≠ stage) :
    (call.run w c).1 = .error (.fault (outOfTurn c stage)) ∧ (call.run w c).2.shared = c.shared ∧
      (call ≠ .execute → (call.run w c).2 = c) := by
  rcases call.kinds w with ⟨expected, next, hturn', -, -, hstep⟩ | rfl | rfl
  · obtain rfl : expected = stage := Option.some.inj (hturn'.symm.trans hturn)
    rw [hstep.run_outOfTurn hstage]
    exact ⟨rfl, rfl, fun _ => rfl⟩
  · cases hturn
    rw [show Call.execute.run w c = _ from execute_outOfTurn hstage]
    exact ⟨rfl, rfl, fun hne => absurd rfl hne⟩
  · cases hturn

theorem execute_of_failed (hstage : c.stage = .failed) (hc : c.IsClosed) : (execute w c).2 = c := by
  rw [execute_outOfTurn (by simp [hstage])]
  obtain ⟨caller, code, stage, machine, hooks, _, _, _, _⟩ := c
  obtain rfl : stage = .failed := hstage
  obtain ⟨rfl, rfl⟩ : machine = none ∧ hooks = none := ⟨hc.machine, hc.hooks⟩
  rfl

/-- Only the drive through all steps makes a context fail, and it closes the context. -/
theorem isClosed_of_failed {new : Context} (hcreated : new.stage = .created) (calls : List Call)
    (h : (reached w new calls).stage = .failed) : (reached w new calls).IsClosed := by
  refine reached_keeps (w := w) (P := fun c => c.stage = .failed → c.IsClosed) ?_ ?_ calls h
  · intro call c hc hfailed
    rcases call.kinds w with ⟨expected, next, hturn, -, hrank, hstep⟩ | rfl | rfl
    · by_cases hstage : c.stage = expected
      · have hle := Call.rank_of_turn hturn
        rw [← hstep.stage hstage, hfailed, Stage.rank] at hrank
        omega
      · rw [hstep.run_outOfTurn hstage] at hfailed ⊢
        exact hc hfailed
    · exact isClosed_execute c
    · exact ⟨rfl, rfl⟩
  · intro hfailed
    cases hcreated.symm.trans hfailed

end

/-- **Which calls are refused without a trace.** Out of its turn each call of a step, and the drive
through all steps, ends with the same internal error and changes nothing that the apply shares. The stage
is as it was exactly if the turn of the call is at another stage and it is the call of a step, or if the
context has failed already: the drive marks any other context as failed, and in its turn a step of a
context that is closed goes on. -/
theorem misuse_is_refused (w : Surroundings) (caller : Caller) (code : String) (shared : ApplyState)
    (calls : List Call) {call : Call} {stage : Stage} (hturn : call.turn = some stage) :
    let c := reached w (Context.new w caller code shared) calls
    (c.stage ≠ stage → (call.run w c).1 = .error (.fault (outOfTurn c stage)) ∧
      (call.run w c).2.shared = c.shared) ∧
    (c.stage ≠ stage → (call = .execute → c.stage = .failed) → (call.run w c).2 = c) ∧
    ((call.run w c).2.stage = c.stage → c.stage ≠ stage ∧ (call = .execute → c.stage = .failed)) := by
  intro c
  refine ⟨fun hstage => ?_, fun hstage hexecute => ?_, fun hsame => ?_⟩
  · obtain ⟨hresult, hshared, -⟩ := run_refused (w := w) hturn hstage
    exact ⟨hresult, hshared⟩
  · by_cases hcall : call = .execute
    · subst hcall
      exact execute_of_failed (hexecute rfl) (isClosed_of_failed rfl calls (hexecute rfl))
    · exact (run_refused hturn hstage).2.2 hcall
  · have hstage : c.stage ≠ stage := by
      rintro rfl
      have hlt := rank_lt_of_turn (w := w) hturn
      rw [hsame] at hlt
      exact lt_irrefl _ hlt
    refine ⟨hstage, ?_⟩
    rintro rfl
    cases hturn
    rw [← hsame, show Call.execute.run w c = _ from execute_outOfTurn hstage]

theorem misuse_is_refused_closed :
    Call.installApi.turn = some .preludeLoaded ∧
      let c := reached lenient lenientContext [.close]
      Call.installApi.run lenient c = (.error (.fault (outOfTurn c .preludeLoaded)), c) := by
  have hturn : Call.installApi.turn = some .preludeLoaded := rfl
  obtain ⟨hresult, hsame, -⟩ :=
    misuse_is_refused lenient lenientCaller lenientScript.text lenientShared [.close] hturn
  exact ⟨hturn, Prod.ext (hresult (by decide)).1 (hsame (by decide) (by decide))⟩

/-- A context that is completed is marked as failed when it is driven through all steps again. -/
theorem completion_is_lost :
    let c := reached lenient lenientContext [.execute]
    c.stage = .completed ∧ (Call.execute.run lenient c).2.stage = .failed := by
  obtain ⟨c₀, c₁, hprepared, hrun, -⟩ := lenient_prepared
  have hcompleted : (execute lenient lenientContext).2.stage = .completed := by
    rw [execute_of_prepared hprepared, hrun]
  have hone : reached lenient lenientContext [.execute] = (execute lenient lenientContext).2 := by
    rw [reached_cons, reached_nil, Call.run]
  rw [hone]
  refine ⟨hcompleted, ?_⟩
  rw [Call.run, execute_outOfTurn (by simp [hcompleted])]

end Context

end KernelConfig
