import KernelConfig.Proofs.Apply.Running

/-!
Interruptions: an error that nothing in a script catches ends the call, and the question for the
deadline either goes back to where it was asked or ends the call like any other error.
-/

set_option autoImplicit false

namespace KernelConfig

open Script

/-- Functions that neither catch an error nor have a variable to close, up to where the host waits. -/
def Script.Frame.Exposed : List Frame → Prop
  | .entry :: _ => True
  | .script a :: rest => a.toClose = [] ∧ Exposed rest
  | .native c :: rest => c.pending = .running ∧ Exposed rest
  | .hook :: rest => Exposed rest
  | _ => False

theorem Script.Frame.handler?_of_exposed {frames : List Frame} (h : Exposed frames) :
    handler? frames = some (some (.native .debugTraceback)) := by
  induction frames with
  | nil => exact h.elim
  | cons f rest ih =>
    cases f with
    | entry => rfl
    | script a => exact ih h.2
    | native c =>
      rw [handler?, h.1]
      exact ih h.2
    | hook => exact ih h
    | _ => exact h.elim

theorem Script.Frame.unwind_of_exposed {frames : List Frame} (h : Exposed frames) (s : Store)
    (gone goneNested : Nat) : ∃ u rest, unwind s [] gone goneNested frames = some u ∧
      u.frames = .entry :: rest ∧ u.toClose = [] := by
  induction frames generalizing gone goneNested with
  | nil => exact h.elim
  | cons f rest ih =>
    cases f with
    | entry => exact ⟨_, rest, rfl, rfl, rfl⟩
    | script a =>
      have hclosing : [] ++ a.closing s = [] := by simp [Activation.closing, h.1]
      rw [unwind, hclosing]
      exact ih h.2 _ _
    | native c =>
      rw [unwind, h.1]
      exact ih h.2 _ _
    | hook => exact ih h _ _
    | _ => exact h.elim

namespace Context

section Rules

variable {w : Surroundings} {L : Context → Prop} {G : Context → Machine → Prop}
  {H : Option (Value × Nat)} {n : Nat} {p : Spot} {call : NativeCall} {rest : List Frame} {vs : List Value}

/-- The library function on top looks at the active functions. -/
theorem Runs.levels {s : Store} {thread : Option Nat} {k : Store → List Level → Act}
    (hf : p.focus = .act (.levels s thread k)) (hframes : p.frames = .native call :: rest)
    (hp : ∀ levels, Runs w L G H n { p with focus := .act (k s levels) }) : Runs w L G H n p := by
  intro c hook ticks environment hc hh
  refine leads_of_advance hc (by simp [Spot.machine, hf, Focus.isBusy]) ?_
  have hadvance : (p.machine hook ticks environment).advance =
      ({ p with focus := .act (k s ((p.machine hook ticks environment).levels thread)) } :
        Spot).machine hook ticks environment := by
    simp only [Machine.advance, Machine.advanceBy, Spot.machine, hf, hframes]
    rfl
  rw [hadvance]
  exact hp _ c hook ticks environment hc hh

/-- The library function on top raises an error. -/
theorem Runs.raised {s : Store} {v : Value} (hf : p.focus = .act (.raise s v))
    (hframes : p.frames = .native call :: rest)
    (hp : Runs w L G H n { p with store := s, focus := .raise v }) : Runs w L G H n p := by
  refine .of_advance _ (by simp [hf, Focus.isBusy]) (fun hook ticks environment => ?_) hp
  simp only [Machine.advance, Machine.advanceBy, Spot.machine, hf, hframes]
  rfl

/-- The library function on top sets the hook. -/
theorem Runs.hooked {s : Store} {f : Value} {count : Nat} {k : Store → Act}
    (hf : p.focus = .act (.setHook s none (some (f, count)) k))
    (hframes : p.frames = .native call :: rest)
    (hp : Runs w L G (some (f, count)) 0 { p with focus := .act (k s) }) : Runs w L G H n p := by
  intro c hook ticks environment hc _
  refine leads_of_advance hc (by simp [Spot.machine, hf, Focus.isBusy]) ?_
  have hadvance : (p.machine hook ticks environment).advance =
      ({ p with focus := .act (k s) } : Spot).machine (some ⟨f, count, count⟩) ticks environment := by
    simp only [Machine.advance, Machine.advanceBy, Spot.machine, hf, hframes, Machine.act,
      Machine.setHook]
    simp [Array.modify, Array.modifyM, Id.run]
    rfl
  rw [hadvance]
  exact hp c _ ticks environment hc ⟨rfl, fun _ _ => Nat.zero_le _⟩

/-- An error that has been looked at ends the call. -/
theorem Runs.unwind {v : Value} (hf : p.focus = .unwind v) (hv : v.isFailure = false)
    (hexposed : Frame.Exposed p.frames) : Runs w L G H n p := by
  intro c hook ticks environment hc hh
  refine leads_of_advance hc (by simp [Spot.machine, hf, Focus.isBusy]) ?_
  obtain ⟨u, rest, hu, hframes, hclose⟩ := Frame.unwind_of_exposed hexposed p.store 0 0
  have hfocus : (p.machine hook ticks environment).focus = .unwind v := hf
  have hu' : Frame.unwind (p.machine hook ticks environment).store [] 0 0
    (p.machine hook ticks environment).frames = some u := hu
  refine .failed hc (v := if v.isNil then .text "<no error object>" else v) ?_ (by split <;> trivial)
  simp only [Machine.advance, Machine.advanceBy, hfocus, Machine.unwind, hu', hclose,
    Machine.closeNext, hframes]
  rfl

theorem Runs.handled (hf : p.focus = .deliver vs) (hframes : p.frames = .handling :: rest)
    (hp : Runs w L G H n { p with frames := rest, focus := .unwind (first vs) }) :
    Runs w L G H n p := by
  refine .of_advance _ (by simp [hf, Focus.isBusy]) (fun hook ticks environment => ?_) hp
  simp only [Machine.advance, Machine.advanceBy, Spot.machine, hf, Machine.deliver, hframes]

/-- What the default handler of errors does with one: no error of the host comes of it that was none
before. -/
theorem task_traceback {v : Value} (hv : v.isFailure = false) (s : Store) :
    (∃ vs, (Library.task .debugTraceback [v]).run s = .done s vs ∧ (first vs).isFailure = false) ∨
      ∃ thread k, (Library.task .debugTraceback [v]).run s = .levels s thread k ∧
        ∀ levels, ∃ vs, k s levels = .done s vs ∧ (first vs).isFailure = false := by
  cases v with
  | table | bool | closure | native | host => exact .inl ⟨_, rfl, hv⟩
  | nil | int | float | string | thread => exact .inr ⟨_, _, rfl, fun _ => ⟨_, rfl, rfl⟩⟩

/-- An error that no function catches ends the call. -/
theorem Runs.raise {v : Value} (hf : p.focus = .raise v) (hv : v.isFailure = false)
    (hexposed : Frame.Exposed p.frames) (hnesting : p.nesting < Machine.nestingLimit) :
    Runs w L G H n p := by
  let handling : Spot := { p with frames := .handling :: p.frames }
  refine .of_advance (handling.tasked .debugTraceback [v] none true)
    (by simp [hf, Focus.isBusy]) (fun hook ticks environment => ?_) ?_
  · have hlimit : ¬ Machine.nestingLimit + 20 ≤ p.nesting := by omega
    simp only [Machine.advance, Machine.advanceBy, Spot.machine, hf, Machine.raise,
      Frame.handler?_of_exposed hexposed, hlimit, if_false]
    rfl
  · have hdone : ∀ (q : Spot) s vs, q.focus = .act (.done s vs) →
        q.frames = (handling.tasked .debugTraceback [v] none true).frames →
        (first vs).isFailure = false → Runs w L G H n q := by
      intro q s vs hq hframes hvs
      refine .done hq hframes ?_
      have hunwind : Runs w L G H n { q with
        store := s, frames := p.frames, depth := q.depth - 1, nesting := q.nesting - 1
        focus := .unwind (first vs) } := .unwind rfl hvs hexposed
      exact .handled rfl rfl hunwind
    rcases task_traceback hv p.store with ⟨vs, htask, hvs⟩ | ⟨thread, k, htask, hk⟩
    · exact hdone _ p.store vs (congrArg Focus.act htask) rfl hvs
    · refine .levels (congrArg Focus.act htask) rfl fun levels => ?_
      obtain ⟨vs, hdone', hvs⟩ := hk levels
      exact hdone _ p.store vs (congrArg Focus.act hdone') rfl hvs

end Rules

end Context

end KernelConfig
