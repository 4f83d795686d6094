import KernelConfig.Proofs.Apply.Following

/-!
Running: rules by which a call of the host is followed, on a machine that has one thread, up to where it
comes back.
-/

set_option autoImplicit false

namespace KernelConfig

namespace Script

namespace Spot

/-- A machine at a spot that has one thread. -/
def machine (p : Spot) (hook : Option Hook) (ticks : Nat) (environment : List (String × String)) :
    Machine where
  store := p.store
  focus := p.focus
  frames := p.frames
  depth := p.depth
  nesting := p.nesting
  threads := #[{ state := .active, hook }]
  inHook := p.inHook
  ticks
  environment

/-- Whether the limits allow one more call. -/
structure HasRoom (p : Spot) : Prop where
  depth : p.depth < Machine.depthLimit
  nesting : p.nesting < Machine.nestingLimit

variable {p : Spot} {hook : Option Hook} {ticks : Nat} {environment : List (String × String)}

theorem machine_eq (p : Spot) (hook : Option Hook) (ticks : Nat) (environment : List (String × String)) :
    p.machine hook ticks environment = (p.on {}).clocked hook ticks environment := by
  simp [machine, on, Machine.clocked, Array.modify, Array.modifyM, Id.run]
  rfl

theorem executed_machine (n : Nat) :
    (p.machine hook ticks environment).executed n =
      p.machine (hook.map fun h => { h with left := h.left - n }) (ticks + n) environment := by
  rw [machine_eq, machine_eq, Machine.executed_clocked]

theorem call_machine {p' : Spot} {f : Value} {args : List Value} {origin : Option Origin}
    {isNested : Bool} (h : (p.on {}).call f args origin isNested = p'.on {}) :
    (p.machine hook ticks environment).call f args origin isNested =
      p'.machine hook ticks environment := by
  rw [machine_eq, machine_eq, Machine.call_clocked, h]

end Spot

end Script

namespace Context

open Script

section Rules

variable (w : Surroundings) (L : Context → Prop) (G : Context → Machine → Prop)
  (H : Option (Value × Nat))

/-- A call is served as it is to be from a spot on, if the hook `H` is not called in the next `n`
instructions. -/
def Runs (n : Nat) (p : Spot) : Prop :=
  ∀ c hook ticks environment, L c → Armed H n hook → Leads w L G c (p.machine hook ticks environment)

/-- Calling the hook at a spot leads back there with some time left, or ends the call with an error. -/
def Interruptible (p : Spot) : Prop :=
  Runs w L G H 1 p → ∀ c (h : Hook) ticks environment, L c → some (h.function, h.count) = H →
    Leads w L G c ((p.machine (some h) ticks environment).callHook h)

/-- Nothing goes wrong at a spot if the hook is to be called. -/
def IsCalm (p : Spot) : Prop := p.inHook = true ∨ H = none ∨ Interruptible w L G H p

variable {w L G H} {n : Nat} {p p' : Spot} {a a' : Activation} {rest : List Frame} {s' : Store}
  {args vs : List Value} {origin : Option Origin} {isNested : Bool}

theorem backward_leads : Backward w L (Leads w L G) := ⟨.ticked, .asked⟩

theorem runs_iff : Runs w L G H n p ↔ Follows L (Leads w L G) H n {} p := by
  simp only [Runs, Follows, Spot.machine_eq]

theorem isCalm_iff : IsCalm w L G H p ↔ Safe L (Leads w L G) H {} p := by
  simp only [IsCalm, Interruptible, Safe, Recovers, runs_iff, Spot.machine_eq]

/-- The spot is where the call is to go. -/
theorem Runs.reached (hp : ∀ c hook ticks environment, L c → Armed H n hook →
    G c (p.machine hook ticks environment)) : Runs w L G H n p :=
  fun c hook ticks environment hc hh => .reached hc (hp c hook ticks environment hc hh)

theorem Runs.mono {k : Nat} (hp : Runs w L G H n p) (hnk : n ≤ k) : Runs w L G H k p :=
  runs_iff.mpr ((runs_iff.mp hp).mono hnk)

/-- A transition that executes no instruction of a script. -/
theorem Runs.of_advance (p' : Spot) (hbusy : p.focus.isBusy = true ∧ p.focus ≠ .script)
    (h : ∀ hook ticks environment, (p.machine hook ticks environment).advance =
      p'.machine hook ticks environment) (hp : Runs w L G H n p') : Runs w L G H n p := by
  intro c hook ticks environment hc hh
  refine leads_of_advance hc hbusy ?_
  rw [h]
  exact hp c hook ticks environment hc hh

theorem Runs.call_closure {id : Nat} (hf : p.focus = .call (.closure id) args origin isNested)
    (hroom : p.HasRoom) (hp : Runs w L G H n (p.entered id args origin isNested)) :
    Runs w L G H n p := by
  refine .of_advance _ (by simp [hf, Focus.isBusy]) (fun hook ticks environment => ?_) hp
  rw [← Spot.call_machine (Spot.call_closure (fun _ => hroom.nesting) hroom.depth id)]
  have hfocus : (p.machine hook ticks environment).focus = .call (.closure id) args origin isNested :=
    hf
  simp only [Machine.advance, Machine.advanceBy, hfocus]

/-! ### Functions of a script -/

theorem Runs.next (hf : p.focus = .script) (hframes : p.frames = .script a :: rest)
    (hcalm : IsCalm w L G H p) (hstep : a.step p.store = .next s' a')
    (hp : Runs w L G H (n - 1) { p with store := s', frames := .script a' :: rest }) : Runs w L G H n p :=
  runs_iff.mpr (.next backward_leads hf hframes (isCalm_iff.mp hcalm) hstep (runs_iff.mp hp))

theorem Runs.ret (hf : p.focus = .script) (hframes : p.frames = .script a :: rest)
    (hcalm : IsCalm w L G H p) (hstep : a.step p.store = .ret s' a' vs)
    (hp : Runs w L G H (n - 1) { p.drop (.script a') rest with store := s', focus := .deliver vs }) :
    Runs w L G H n p :=
  runs_iff.mpr (.ret backward_leads hf hframes (isCalm_iff.mp hcalm) hstep (runs_iff.mp hp))

theorem Runs.enter {id : Nat} (hf : p.focus = .script) (hframes : p.frames = .script a :: rest)
    (hcalm : IsCalm w L G H p) (hroom : p.HasRoom)
    (hstep : a.step p.store = .call s' a' (.closure id) args origin isNested)
    (hp : Runs w L G H (n - 1)
      (({ p with store := s', frames := .script a' :: rest } : Spot).entered id args origin isNested)) :
    Runs w L G H n p :=
  runs_iff.mpr (.enter backward_leads hf hframes (isCalm_iff.mp hcalm) (fun _ => hroom.nesting)
    hroom.depth hstep (runs_iff.mp hp))

theorem Runs.task {fn : Native} (hf : p.focus = .script) (hframes : p.frames = .script a :: rest)
    (hcalm : IsCalm w L G H p) (hroom : p.HasRoom)
    (hstep : a.step p.store = .call s' a' (.native fn) args origin isNested)
    (hp : Runs w L G H (n - 1)
      (({ p with store := s', frames := .script a' :: rest } : Spot).tasked fn args origin isNested)) :
    Runs w L G H n p :=
  runs_iff.mpr (.task backward_leads hf hframes (isCalm_iff.mp hcalm) (fun _ => hroom.nesting) hstep
    (runs_iff.mp hp))

theorem Runs.ask {name : String} (hf : p.focus = .script) (hframes : p.frames = .script a :: rest)
    (hcalm : IsCalm w L G H p) (hroom : p.HasRoom)
    (hstep : a.step p.store = .call s' a' (.host (.function name)) args origin isNested)
    (hp : Runs w L G H (n - 1)
      (({ p with store := s', frames := .script a' :: rest } : Spot).hosted name args origin isNested)) :
    Runs w L G H n p :=
  runs_iff.mpr (.ask backward_leads hf hframes (isCalm_iff.mp hcalm) (fun _ => hroom.nesting) hstep
    (runs_iff.mp hp))

/-- A stretch of plain instructions of the function on top. -/
theorem Runs.glide (k : Nat) {code : List Instr} (hcode : a.code = code) (hf : p.focus = .script)
    (hframes : p.frames = .script a :: rest)
    (hcalm : ∀ a'', a''.toClose = a.toClose →
      IsCalm w L G H { p with frames := .script a'' :: rest })
    (hglide : a.glide p.store code k = some a')
    (hp : Runs w L G H (n - k) { p with frames := .script a' :: rest }) : Runs w L G H n p :=
  runs_iff.mpr (.glide backward_leads k hcode hf hframes (fun a'' hc => isCalm_iff.mp (hcalm a'' hc))
    hglide (runs_iff.mp hp))

/-- Without a hook a function that comes to its end can be executed at once. -/
theorem Runs.execute {P : List Value → Machine → Prop} {k left : Nat} (hf : p.focus = .script)
    (hframes : p.frames = .script a :: rest) (hexecute : Script.execute k p.store a = (left, .ret s' a' vs))
    (hp : Runs w L (Returned P) none 0 { p.drop (.script a') rest with store := s', focus := .deliver vs }) :
    Runs w L (Returned P) none 0 p := by
  intro c hook ticks environment hc hh
  have hnone : hook = none := Option.map_eq_none_iff.mp hh.isHook
  subst hnone
  have htop : (p.machine none ticks environment).IsOnTop a rest := ⟨hf, hframes⟩
  have htime : (p.machine none ticks environment).HasTime k := fun h he => by cases he
  rw [Machine.iff_runFor (R := Leads w L (Returned P) c)
    (fun m hm => leads_iff_tick hc (by simp [hm, Focus.isBusy])) htop htime, Machine.runFor_eq]
  have hexecute' : Script.execute k (p.machine none ticks environment).store a =
    (left, .ret s' a' vs) := hexecute
  rw [hexecute']
  show Leads w L (Returned P) c ((Machine.executed (({ p with store := {}, frames := [] } : Spot).machine none
    ticks environment) (k - left)).afterStep rest (.ret s' a' vs))
  rw [Spot.executed_machine]
  exact hp c none _ environment hc ⟨rfl, fun h he => by cases he⟩

/-! ### Library functions and results -/

variable {call : NativeCall}

theorem Runs.done {s : Store} (hf : p.focus = .act (.done s vs)) (hframes : p.frames = .native call :: rest)
    (hp : Runs w L G H n { p.drop (.native call) rest with store := s, focus := .deliver vs }) :
    Runs w L G H n p :=
  runs_iff.mpr (.done backward_leads hf hframes (runs_iff.mp hp))

theorem Runs.guarded {s : Store} {f : Value} {handler : Option Value}
    {k : Store → Except Value (List Value) → Act}
    (hf : p.focus = .act (.guarded s f args handler k)) (hframes : p.frames = .native call :: rest)
    (hp : Runs w L G H n { p with
      store := s, frames := .native { call with pending := .guarded handler k } :: rest
      focus := .call f args none true }) : Runs w L G H n p := by
  refine .of_advance _ (by simp [hf, Focus.isBusy]) (fun hook ticks environment => ?_) hp
  simp only [Machine.advance, Machine.advanceBy, Spot.machine, hf, hframes]
  rfl

theorem Runs.deliver (hf : p.focus = .deliver vs) (hframes : p.frames = .script a :: rest)
    (hresume : a.resume p.store vs = .next s' a')
    (hp : Runs w L G H n { p with store := s', frames := .script a' :: rest, focus := .script }) :
    Runs w L G H n p :=
  runs_iff.mpr (.deliver backward_leads hf hframes hresume (runs_iff.mp hp))

theorem Runs.returned {P : List Value → Machine → Prop} (hf : p.focus = .deliver vs)
    (hframes : p.frames = .entry :: rest)
    (hp : ∀ hook ticks environment, Armed H n hook →
      P vs (({ p with focus := .finished (.ok vs) } : Spot).machine hook ticks environment)) :
    Runs w L (Returned P) H n p := by
  refine .of_advance { p with focus := .finished (.ok vs) } (by simp [hf, Focus.isBusy])
    (fun hook ticks environment => ?_)
    (.reached fun c hook ticks environment _ hh => ⟨vs, rfl, hp hook ticks environment hh⟩)
  simp only [Machine.advance, Machine.advanceBy, Spot.machine, hf, Machine.deliver, hframes]

theorem Runs.hookReturned (hf : p.focus = .deliver vs) (hframes : p.frames = .hook :: rest)
    (hp : Runs w L G H n { p with frames := rest, inHook := false, focus := .script }) :
    Runs w L G H n p :=
  runs_iff.mpr (.hookReturned backward_leads hf hframes (runs_iff.mp hp))

end Rules

end Context

end KernelConfig
