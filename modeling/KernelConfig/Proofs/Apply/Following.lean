import KernelConfig.Proofs.Apply.Served
import KernelConfig.Proofs.Script.Gliding

/-!
Following: rules by which the functions of a script are followed on any machine, whatever its threads
are. They do not depend on how much time is left until the hook is called.
-/

set_option autoImplicit false

namespace KernelConfig

namespace Script.Machine

/-- The machine at another time, with another hook of the thread that is being run, in another process. -/
def clocked (m : Machine) (hook : Option Hook) (ticks : Nat) (environment : List (String × String)) :
    Machine :=
  { m with ticks, environment, threads := m.threads.modify m.current fun t => { t with hook } }

section

variable {m : Machine} {hook : Option Hook} {ticks : Nat} {environment : List (String × String)}

theorem hook_of_clocked {h : Hook} (hh : (m.clocked hook ticks environment).hook = some h) :
    hook = some h := by
  unfold Machine.hook thread clocked at hh
  simp only [Array.getD_eq_getD_getElem?, Array.getElem?_modify] at hh
  cases ht : m.threads[m.current]? with
  | none =>
    simp only [ht, Option.map_none, ite_true, Option.getD_none] at hh
    cases hh
  | some t => simpa [ht] using hh

theorem clocked_self (m : Machine) : m.clocked m.hook m.ticks m.environment = m := by
  have hthreads : (m.clocked m.hook m.ticks m.environment).threads = m.threads := by
    ext k hk hk'
    · simp [clocked]
    · simp only [clocked, Array.getElem_modify]
      split
      · rename_i h
        subst h
        simp [Machine.hook, thread, Array.getD_eq_getD_getElem?, Array.getElem?_eq_getElem hk']
      · rfl
  cases m
  simpa [clocked] using hthreads

theorem executed_clocked (n : Nat) :
    (m.clocked hook ticks environment).executed n =
      m.clocked (hook.map fun h => { h with left := h.left - n }) (ticks + n) environment := by
  have hthreads : ((m.clocked hook ticks environment).executed n).threads =
      (m.clocked (hook.map fun h => { h with left := h.left - n }) (ticks + n) environment).threads := by
    ext k hk hk'
    · simp [executed, clocked]
    · simp only [executed, clocked, Array.getElem_modify]
      split <;> rfl
  simp only [executed, clocked, Machine.mk.injEq, true_and, and_true] at hthreads ⊢
  exact hthreads

theorem IsOnTop.clocked {a : Activation} {rest : List Frame} (h : m.IsOnTop a rest)
    (hook : Option Hook) (ticks : Nat) (environment : List (String × String)) :
    (m.clocked hook ticks environment).IsOnTop a rest :=
  ⟨h.focus, h.frames⟩

theorem enter_clocked (f : Value) (args : List Value) (origin : Option Origin) (isTail isNested : Bool)
    (extra : Nat) : (m.clocked hook ticks environment).enter f args origin isTail isNested extra =
      (m.enter f args origin isTail isNested extra).clocked hook ticks environment := by
  unfold enter
  split
  · dsimp only
    split_ifs <;> first | rfl | contradiction
  · rfl
  · rfl
  · rfl

theorem call_clocked (f : Value) (args : List Value) (origin : Option Origin) (isNested : Bool) :
    (m.clocked hook ticks environment).call f args origin isNested =
      (m.call f args origin isNested).clocked hook ticks environment := by
  have hnesting : (m.clocked hook ticks environment).nesting = m.nesting := rfl
  have hstore : (m.clocked hook ticks environment).store = m.store := rfl
  unfold call
  rw [hnesting, hstore]
  split
  · rfl
  · split
    · rfl
    · exact enter_clocked _ _ _ _ _ _

theorem callHook_clocked (h : Hook) :
    (m.clocked (some h) ticks environment).callHook h =
      (({ m with frames := .hook :: m.frames, inHook := true } : Machine).call h.function
        [.text "count", .nil] (some ⟨.hook, bytes "?"⟩) true).clocked
          (some { h with left := h.count }) ticks environment := by
  have hthreads : (m.clocked (some h) ticks environment).threads.modify m.current (fun t =>
      { t with hook := some { h with left := h.count } }) =
      (m.clocked (some { h with left := h.count }) ticks environment).threads := by
    ext k hk hk'
    · simp [clocked]
    · simp only [clocked, Array.getElem_modify]
      split <;> rfl
  rw [← call_clocked]
  unfold callHook
  refine congrArg (Machine.call · _ _ _ _) ?_
  simp only [clocked, Machine.mk.injEq, true_and, and_true] at hthreads ⊢
  exact hthreads

theorem afterStep_clocked (rest : List Frame) (step : Step) :
    (m.clocked hook ticks environment).afterStep rest step =
      (m.afterStep rest step).clocked hook ticks environment := by
  cases step with
  | next s a => rfl
  | ret s a vs => rfl
  | fail s a message => rfl
  | call s a f args origin isNested =>
    exact call_clocked (m := { m with store := s, frames := .script a :: rest }) f args origin isNested
  | tailCall s a f args origin =>
    unfold afterStep
    dsimp only
    split
    · rfl
    · exact enter_clocked (m := ({ m with store := s } : Machine).dropped (.script a) rest) _ _ _ _ _ _
    · exact enter_clocked (m := ({ m with store := s, frames := .script a :: rest } : Machine)) _ _ _ _ _ _

end

end Script.Machine

namespace Script

/-- Where a machine is, apart from its threads and its clock. -/
structure Spot where
  store : Store
  frames : List Frame
  depth : Nat
  nesting : Nat
  inHook : Bool := false
  focus : Focus

namespace Spot

/-- A machine that has been put at a spot. -/
def on (p : Spot) (m : Machine) : Machine :=
  { m with
    store := p.store, frames := p.frames, depth := p.depth, nesting := p.nesting, inHook := p.inHook
    focus := p.focus }

def push (p : Spot) (f : Frame) : Spot :=
  { p with frames := f :: p.frames, depth := p.depth + 1, nesting := p.nesting + f.isNested.toNat }

def drop (p : Spot) (f : Frame) (rest : List Frame) : Spot :=
  { p with frames := rest, depth := p.depth - 1, nesting := p.nesting - f.isNested.toNat }

/-- The function of a script has been called. -/
def entered (p : Spot) (id : Nat) (args : List Value) (origin : Option Origin) (isNested : Bool) :
    Spot :=
  { p.push (.script (Activation.enter p.store id args origin false 0 isNested)) with focus := .script }

/-- A library function has been called; the store is with its task. -/
def tasked (p : Spot) (fn : Native) (args : List Value) (origin : Option Origin) (isNested : Bool) :
    Spot :=
  { p.push (.native { function := .native fn, origin, extraArguments := 0, isNested }) with
    store := {}, focus := .act ((Library.task fn args).run p.store) }

/-- A function of the host has been called. -/
def hosted (p : Spot) (name : String) (args : List Value) (origin : Option Origin)
    (isNested : Bool) : Spot :=
  { p.push (.native { function := .host (.function name), origin, extraArguments := 0, isNested }) with
    focus := .asking name args }

/-- Whether the limits allow a call that is nested or not. -/
def Allows (p : Spot) (isNested : Bool) : Prop := isNested = true → p.nesting < Machine.nestingLimit

variable {p : Spot} {m : Machine} {args : List Value} {origin : Option Origin} {isNested : Bool}

theorem call_of_allows (hnesting : p.Allows isNested) (f : Value) :
    (p.on m).call f args origin isNested = match p.store.callee 100 f args with
      | none => (p.on m).calleeFault f origin
      | some (f, args, extra) => (p.on m).enter f args origin false isNested extra := by
  have hlimit : (isNested && decide (Machine.nestingLimit ≤ (p.on m).nesting)) = false := by
    cases isNested with
    | false => rfl
    | true => exact decide_eq_false (Nat.not_le.mpr (hnesting rfl))
  unfold Machine.call
  rw [hlimit]
  rfl

theorem call_closure (hnesting : p.Allows isNested) (hdepth : p.depth < Machine.depthLimit) (id : Nat) :
    (p.on m).call (.closure id) args origin isNested = (p.entered id args origin isNested).on m := by
  have hlimit : ¬ Machine.depthLimit ≤ (p.on m).depth := Nat.not_le.mpr hdepth
  rw [call_of_allows hnesting]
  show Machine.enter _ _ _ _ _ _ _ = _
  simp only [Machine.enter, hlimit, if_false]
  rfl

theorem call_native (hnesting : p.Allows isNested) (fn : Native) :
    (p.on m).call (.native fn) args origin isNested = (p.tasked fn args origin isNested).on m := by
  rw [call_of_allows hnesting]
  rfl

theorem call_host (hnesting : p.Allows isNested) (name : String) :
    (p.on m).call (.host (.function name)) args origin isNested =
      (p.hosted name args origin isNested).on m := by
  rw [call_of_allows hnesting]
  rfl

/-- The limit on nested calls is reached. -/
theorem call_of_not_allows (hnesting : Machine.nestingLimit ≤ p.nesting) (f : Value) (args : List Value)
    (origin : Option Origin) :
    ∃ v, (p.on m).call f args origin true = ({ p with focus := .raise v } : Spot).on m := by
  have hlimit : Machine.nestingLimit ≤ (p.on m).nesting := hnesting
  have hcall : (p.on m).call f args origin true = (p.on m).raiseHere (bytes "C stack overflow") := by
    simp only [Machine.call, hlimit, decide_true, Bool.and_true, if_true]
  exact ⟨_, hcall⟩

/-- The limit on the functions that are active is reached. -/
theorem call_closure_of_full (hnesting : p.Allows isNested) (hdepth : Machine.depthLimit ≤ p.depth)
    (id : Nat) (args : List Value) (origin : Option Origin) :
    ∃ v, (p.on m).call (.closure id) args origin isNested =
      ({ p with focus := .raise v } : Spot).on m := by
  have hlimit : Machine.depthLimit ≤ (p.on m).depth := hdepth
  have hcall : (p.on m).call (.closure id) args origin isNested =
      (p.on m).raiseHere (bytes "stack overflow") := by
    rw [call_of_allows hnesting]
    show Machine.enter _ _ _ _ _ _ _ = _
    simp only [Machine.enter, hlimit, if_true]
  exact ⟨_, hcall⟩

end Spot

end Script

namespace Context

open Script

section Rules

variable (w : Surroundings) (L : Context → Prop) (R : Context → Machine → Prop)
  (H : Option (Value × Nat))

/-- What holds of a call if it holds of where the call goes next, as long as the context is as it is to
be. -/
structure Backward : Prop where
  ticked : ∀ {c m}, L c → m.focus.isBusy = true → R c m.tick → R c m
  asked : ∀ {c m name arguments}, L c → m.focus = .asking name arguments →
    R (answer w c m name arguments).2 (answer w c m name arguments).1 → R c m

/-- What is known of a hook: its function and its count, and a time that is left at least. -/
structure Armed (n : Nat) (hook : Option Hook) : Prop where
  isHook : hook.map (fun h => (h.function, h.count)) = H
  left : ∀ h, hook = some h → n ≤ h.left

/-- A machine is served as it is to be from a spot on, if the hook `H` is not called in the next `n`
instructions. -/
def Follows (n : Nat) (m : Machine) (p : Spot) : Prop :=
  ∀ c hook ticks environment, L c → Armed H n hook → R c ((p.on m).clocked hook ticks environment)

/-- Calling the hook at a spot leads back there with some time left, or to where the call is to go. -/
def Recovers (m : Machine) (p : Spot) : Prop :=
  Follows L R H 1 m p → ∀ c (h : Hook) ticks environment, L c → some (h.function, h.count) = H →
    R c (((p.on m).clocked (some h) ticks environment).callHook h)

/-- Nothing goes wrong at a spot if the hook is to be called. -/
def Safe (m : Machine) (p : Spot) : Prop := p.inHook = true ∨ H = none ∨ Recovers L R H m p

variable {w L R H} {n : Nat} {m : Machine} {p p' : Spot} {a a' : Activation} {rest : List Frame}
  {s' : Store} {args vs : List Value} {origin : Option Origin} {isNested : Bool}

theorem Follows.mono {k : Nat} (h : Follows L R H n m p) (hnk : n ≤ k) : Follows L R H k m p :=
  fun c hook ticks environment hc hh =>
    h c hook ticks environment hc ⟨hh.isHook, fun h he => Nat.le_trans hnk (hh.left h he)⟩

variable (hR : Backward w L R)

include hR

/-- A transition that executes no instruction of a script. -/
theorem Follows.of_tick (hbusy : p.focus.isBusy = true)
    (htick : ∀ hook ticks environment,
      ((p.on m).clocked hook ticks environment).tick = (p'.on m).clocked hook ticks environment)
    (hp : Follows L R H n m p') : Follows L R H n m p := by
  intro c hook ticks environment hc hh
  refine hR.ticked hc hbusy ?_
  rw [htick]
  exact hp c hook ticks environment hc hh

/-- The function of a script on top takes a step; before that the hook may be called. -/
theorem Follows.of_step (hf : p.focus = .script) (hframes : p.frames = .script a :: rest)
    (hsafe : Safe L R H m p)
    (h : ∀ c hook ticks environment, L c → Armed H (n - 1) hook →
      R c (((({ p with store := {}, frames := [] } : Spot).on m).afterStep rest
        (a.step p.store)).clocked hook ticks environment)) : Follows L R H n m p := by
  have hbusy : p.focus.isBusy = true := by simp [hf, Focus.isBusy]
  have htop : ∀ hook ticks environment, ((p.on m).clocked hook ticks environment).IsOnTop a rest :=
    fun _ _ _ => ⟨hf, hframes⟩
  have hstep : ∀ c hook ticks environment, L c → Armed H n hook →
      ((p.on m).clocked hook ticks environment).HasTime 1 →
      R c ((p.on m).clocked hook ticks environment) := by
    intro c hook ticks environment hc hh ht
    have harmed : Armed H (n - 1) (hook.map fun h : Hook => { h with left := h.left - 1 }) := by
      refine ⟨hh.isHook ▸ by cases hook <;> rfl, fun h hh' => ?_⟩
      cases hook with
      | none => cases hh'
      | some h₀ =>
        cases hh'
        exact Nat.sub_le_sub_right (hh.left h₀ rfl) 1
    have hafter := h c _ (ticks + 1) environment hc harmed
    rw [← Machine.afterStep_clocked, ← Machine.executed_clocked] at hafter
    refine hR.ticked hc hbusy ?_
    rw [Machine.tick_of_time (htop hook ticks environment) ht, Machine.runFor_one]
    exact hafter
  intro c hook ticks environment hc hh
  by_cases ht : ((p.on m).clocked hook ticks environment).HasTime 1
  · exact hstep c hook ticks environment hc hh ht
  · -- The hook is called now.
    obtain ⟨h₀, hh₀, hcall, -⟩ := Machine.tick_of_no_time (htop hook ticks environment) ht
    have hhook := Machine.hook_of_clocked hh₀
    subst hhook
    have hzero : h₀.left < 1 := by
      by_contra hleft
      exact ht fun h hh' => .inr (Option.some.inj (hh₀.symm.trans hh') ▸ Nat.not_lt.mp hleft)
    refine hR.ticked hc hbusy ?_
    rw [hcall]
    rcases hsafe with hin | rfl | hrecovers
    · exact absurd (fun h _ => .inl hin) ht
    · cases hh.isHook
    · refine hrecovers (fun c hook ticks environment hc hh' => ?_) c h₀ ticks environment hc hh.isHook
      refine hstep c hook ticks environment hc ⟨hh'.isHook, fun h he => ?_⟩ fun h he => .inr ?_
      · have := hh.left h₀ rfl
        omega
      · exact hh'.left h (Machine.hook_of_clocked he)

theorem Follows.next (hf : p.focus = .script) (hframes : p.frames = .script a :: rest)
    (hsafe : Safe L R H m p) (hstep : a.step p.store = .next s' a')
    (hp : Follows L R H (n - 1) m { p with store := s', frames := .script a' :: rest }) :
    Follows L R H n m p := by
  refine .of_step hR hf hframes hsafe fun c hook ticks environment hc hh => ?_
  have h := hp c hook ticks environment hc hh
  rw [hstep]
  simpa only [Machine.afterStep, Spot.on, hf] using h

theorem Follows.ret (hf : p.focus = .script) (hframes : p.frames = .script a :: rest)
    (hsafe : Safe L R H m p) (hstep : a.step p.store = .ret s' a' vs)
    (hp : Follows L R H (n - 1) m
      { p.drop (.script a') rest with store := s', focus := .deliver vs }) : Follows L R H n m p := by
  refine .of_step hR hf hframes hsafe fun c hook ticks environment hc hh => ?_
  rw [hstep]
  exact hp c hook ticks environment hc hh

/-- The function on top calls another function, whatever that is. -/
theorem Follows.call {f : Value} (hf : p.focus = .script) (hframes : p.frames = .script a :: rest)
    (hsafe : Safe L R H m p) (hstep : a.step p.store = .call s' a' f args origin isNested)
    (hcall : (({ p with store := s', frames := .script a' :: rest } : Spot).on m).call f args origin
      isNested = p'.on m) (hp : Follows L R H (n - 1) m p') : Follows L R H n m p := by
  refine .of_step hR hf hframes hsafe fun c hook ticks environment hc hh => ?_
  rw [hstep]
  have h := hp c hook ticks environment hc hh
  rw [← hcall] at h
  exact h

theorem Follows.enter {id : Nat} (hf : p.focus = .script) (hframes : p.frames = .script a :: rest)
    (hsafe : Safe L R H m p) (hnesting : p.Allows isNested) (hdepth : p.depth < Machine.depthLimit)
    (hstep : a.step p.store = .call s' a' (.closure id) args origin isNested)
    (hp : Follows L R H (n - 1) m
      (({ p with store := s', frames := .script a' :: rest } : Spot).entered id args origin isNested)) :
    Follows L R H n m p :=
  .call hR hf hframes hsafe hstep
    (Spot.call_closure (p := { p with store := s', frames := .script a' :: rest }) hnesting hdepth id) hp

theorem Follows.task {fn : Native} (hf : p.focus = .script) (hframes : p.frames = .script a :: rest)
    (hsafe : Safe L R H m p) (hnesting : p.Allows isNested)
    (hstep : a.step p.store = .call s' a' (.native fn) args origin isNested)
    (hp : Follows L R H (n - 1) m
      (({ p with store := s', frames := .script a' :: rest } : Spot).tasked fn args origin isNested)) :
    Follows L R H n m p :=
  .call hR hf hframes hsafe hstep
    (Spot.call_native (p := { p with store := s', frames := .script a' :: rest }) hnesting fn) hp

theorem Follows.ask {name : String} (hf : p.focus = .script) (hframes : p.frames = .script a :: rest)
    (hsafe : Safe L R H m p) (hnesting : p.Allows isNested)
    (hstep : a.step p.store = .call s' a' (.host (.function name)) args origin isNested)
    (hp : Follows L R H (n - 1) m
      (({ p with store := s', frames := .script a' :: rest } : Spot).hosted name args origin isNested)) :
    Follows L R H n m p :=
  .call hR hf hframes hsafe hstep
    (Spot.call_host (p := { p with store := s', frames := .script a' :: rest }) hnesting name) hp

/-- A stretch of plain instructions of the function on top. -/
theorem Follows.glide (k : Nat) {code : List Instr} (hcode : a.code = code) (hf : p.focus = .script)
    (hframes : p.frames = .script a :: rest)
    (hsafe : ∀ a'', a''.toClose = a.toClose →
      Safe L R H m { p with frames := .script a'' :: rest })
    (hglide : a.glide p.store code k = some a')
    (hp : Follows L R H (n - k) m { p with frames := .script a' :: rest }) : Follows L R H n m p := by
  induction k generalizing n p a with
  | zero =>
    cases hglide
    rw [← hframes] at hp
    exact hp
  | succ k ih =>
    unfold Activation.glide at hglide
    split at hglide
    · rename_i i hi
      split at hglide
      · rename_i hplain
        split at hglide
        · rename_i s a₁ hnext
          obtain ⟨rfl, hfunction, hclose⟩ := Activation.next_of_isPlain hplain hnext
          have hstep : a.step p.store = .next p.store a₁ := by
            rw [Activation.step_of_code hcode, hi]
            exact hnext
          have hsafe₀ : Safe L R H m p := by
            have h := hsafe a rfl
            rwa [← hframes] at h
          refine .next hR hf hframes hsafe₀ hstep ?_
          refine ih ?_ hf rfl (fun a'' hc => hsafe a'' (hc.trans hclose)) hglide ?_
          · rw [← hcode]
            simp only [Activation.code, hfunction]
          · have hcount : n - 1 - k = n - (k + 1) := by omega
            rw [hcount]
            exact hp
        · cases hglide
      · cases hglide
    · cases hglide

/-! ### Library functions and results -/

variable {native : NativeCall}

theorem Follows.done {s : Store} (hf : p.focus = .act (.done s vs))
    (hframes : p.frames = .native native :: rest)
    (hp : Follows L R H n m { p.drop (.native native) rest with store := s, focus := .deliver vs }) :
    Follows L R H n m p := by
  refine .of_tick hR (by simp [hf, Focus.isBusy]) (fun hook ticks environment => ?_) hp
  simp only [Machine.tick, Machine.advanceBy, Machine.clocked, Spot.on, hf, hframes]
  rfl

/-- The library function on top looks at the active functions of its own thread. -/
theorem Follows.levels {s : Store} {k : Store → List Level → Act}
    (hf : p.focus = .act (.levels s none k)) (hframes : p.frames = .native native :: rest)
    (hp : Follows L R H n m { p with focus := .act (k s (p.frames.filterMap Frame.level?)) }) :
    Follows L R H n m p := by
  refine .of_tick hR (by simp [hf, Focus.isBusy]) (fun hook ticks environment => ?_) hp
  simp only [Machine.tick, Machine.advanceBy, Machine.clocked, Spot.on, hf, hframes]
  rfl

/-- The library function on top raises an error. -/
theorem Follows.raised {s : Store} {v : Value} (hf : p.focus = .act (.raise s v))
    (hframes : p.frames = .native native :: rest)
    (hp : Follows L R H n m { p with store := s, focus := .raise v }) : Follows L R H n m p := by
  refine .of_tick hR (by simp [hf, Focus.isBusy]) (fun hook ticks environment => ?_) hp
  simp only [Machine.tick, Machine.advanceBy, Machine.clocked, Spot.on, hf, hframes]
  rfl

theorem Follows.deliver (hf : p.focus = .deliver vs) (hframes : p.frames = .script a :: rest)
    (hresume : a.resume p.store vs = .next s' a')
    (hp : Follows L R H n m { p with store := s', frames := .script a' :: rest, focus := .script }) :
    Follows L R H n m p := by
  refine .of_tick hR (by simp [hf, Focus.isBusy]) (fun hook ticks environment => ?_) hp
  simp only [Machine.tick, Machine.advanceBy, Machine.clocked, Spot.on, hf, Machine.deliver, hframes,
    hresume]
  rfl

theorem Follows.hookReturned (hf : p.focus = .deliver vs) (hframes : p.frames = .hook :: rest)
    (hp : Follows L R H n m { p with frames := rest, inHook := false, focus := .script }) :
    Follows L R H n m p := by
  refine .of_tick hR (by simp [hf, Focus.isBusy]) (fun hook ticks environment => ?_) hp
  simp only [Machine.tick, Machine.advanceBy, Machine.clocked, Spot.on, hf, Machine.deliver, hframes]

end Rules

end Context

end KernelConfig
