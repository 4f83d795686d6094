import KernelConfig.Proofs.Apply.Setup
import KernelConfig.Proofs.Apply.Steps

/-!
The runner: the function of the prelude that calls the function of a script. It comes to the protected
call of that function, and what it gives back once this call is over does not depend on what the script has
left behind.
-/

set_option autoImplicit false

namespace KernelConfig.Context

open Script Script.Prelude

/-- The runner, at a place. -/
def runner (l : Places) (chunk : Chunk) (f : Function) (pc : Nat) (slots : List Local)
    (stack : List Value) (await : Await) : Activation :=
  { closure := l.run, chunk, function := f, upvalues := #[l.rawXpcall, l.traceback, l.env], pc
    slots := slots.toArray, stack, varargs := [], await, origin := none, isTail := false
    extraArguments := 0, isNested := true }

/-- What a protected call gives back. -/
def protectedResults : Except Value (List Value) → List Value
  | .ok vs => .bool true :: vs
  | .error v => [.bool false, v]

/-- The runner waits for a protected call. -/
structure Awaits (a : Activation) : Prop where
  code : a.code = runShape.code
  pc : a.pc = 6
  slots : a.slots.size = 4
  stack : a.stack = []
  toClose : a.toClose = []
  await : a.await = .results (.exactly 2)

/-- The function of a script is called by the runner, in a protected call. -/
structure Protects (f : Value) (call : NativeCall) (a : Activation)
    (k : Store → Except Value (List Value) → Act) (m : Machine) : Prop where
  main : m.Main [.native call, .script a, .entry]
  function : call.function = .native .xpcall
  pending : ∃ handler, call.pending = .guarded handler k
  focus : m.focus = .call f [] none true
  results : ∀ s r, k s r = .done s (protectedResults r)
  awaits : Awaits a

/-! ### Up to the protected call -/

theorem task_xpcall (s : Store) (f : Value) (handler : Nat) :
    ∃ k, (Library.task .xpcall [f, .closure handler]).run s =
      .guarded s f [] (some (.closure handler)) k ∧ ∀ s r, k s r = .done s (protectedResults r) := by
  refine ⟨_, rfl, fun s r => ?_⟩
  cases r <;> rfl

section

variable {w : Surroundings} {L : Context → Prop} {H : Option (Value × Nat)} {l : Places} {s : Store}
  (hL : ∀ c c', L c → Quiet c c' → L c')

include hL

/-- Whatever the script is, the runner comes to call it. -/
theorem runs_protected {G : Context → Machine → Prop} (hp : Prepared l s) (hw : Watched H l s) (f : Value)
    (h : ∀ s' call a k, s.Extends s' → call.function = .native .xpcall →
      (∃ handler, call.pending = .guarded handler k) → (∀ s r, k s r = .done s (protectedResults r)) →
      Awaits a → Runs w L G H 0 ⟨s', [.native call, .script a, .entry], 2, 2, false, .call f [] none true⟩) :
    Runs w L G H 0 (Spot.called s (.closure l.run) [f]) := by
  have hfunction : s.HasFunction l.run 13 [l.rawXpcall, l.traceback, l.env] :=
    hp.functions (l.run, 13, [l.rawXpcall, l.traceback, l.env]) (by simp [Places.functions])
  refine .called hfunction (show (13, runShape) ∈ shapes by simp [shapes])
    fun fn chunk hcode hknown => ?_
  have hacode : ∀ pc slots stack await, (runner l chunk fn pc slots stack await).code =
      runShape.code := fun _ _ _ _ => hcode
  have hraw : s.cell l.rawXpcall = .native .xpcall :=
    (hp.cells (l.rawXpcall, _) (by simp [Places.cells])).2
  have hcaptures : (chunk.getD 14 default).captures = [.slot 1, .upvalue 1, .upvalue 2] :=
    hknown.captures (14, [.slot 1, .upvalue 1, .upvalue 2]) (by simp [captures])
  have harguments : (runner l chunk fn 0 [.value f, .value .nil, .value .nil, .value .nil] []
      .nothing).glide s runShape.code 4 = some (runner l chunk fn 4
        [.value f, .value .nil, .value .nil, .value .nil] [f, .native .xpcall] .nothing) := by
    simp [runner, Activation.glide, runShape, Instr.isPlain, Step.instruction, Activation.push,
      Activation.getSlot, Activation.newSlot, hraw]
  let c := s.cells.size
  let s₁ := ((s.addCell .nil).1.addClosure
    { chunk, index := 14, upvalues := #[c, l.traceback, l.env] }).1
  have hclosure : (runner l chunk fn 4 [.value f, .value .nil, .value .nil, .value .nil]
      [f, .native .xpcall] .nothing).step s = .next s₁ (runner l chunk fn 5
        [.value f, .shared c, .value .nil, .value .nil]
        [.closure s.closures.size, f, .native .xpcall] .nothing) := by
    rw [Activation.step_of_code (hacode _ _ _ _)]
    show Step.instruction s (runner l chunk fn 5 _ _ _) (.closure 14) = _
    rw [Activation.instruction_closure hcaptures]
    rfl
  have hkept : Kept l s s₁ := (Kept.addCell l s .nil).trans (.addClosure l _ _)
  have hcall : (runner l chunk fn 5 [.value f, .shared c, .value .nil, .value .nil]
      [.closure s.closures.size, f, .native .xpcall] .nothing).step s₁ = .call s₁
        (runner l chunk fn 6 [.value f, .shared c, .value .nil, .value .nil] []
          (.results (.exactly 2))) (.native .xpcall) [f, .closure s.closures.size]
        (ofUpvalue "raw_xpcall") false := by
    rw [Activation.step_of_code (hacode _ _ _ _)]
    rfl
  obtain ⟨k, htask, hresults⟩ := task_xpcall s₁ f s.closures.size
  refine .glide 4 (hacode _ _ _ _) rfl rfl (isCalm_alone hL hp hw) harguments ?_
  refine .next rfl rfl (isCalm_alone hL hp hw _ rfl) hclosure ?_
  refine .task rfl rfl (isCalm_alone hL (hp.of_kept hkept) (hw.of_kept hkept) _ rfl)
    (Spot.hasRoom_alone _ _) hcall ?_
  refine .guarded (congrArg Focus.act htask) rfl ?_
  exact h s₁ _ _ k ((Store.Extends.addCell s .nil).trans (.addClosure _ _)) rfl ⟨_, rfl⟩ hresults
    ⟨hcode, rfl, rfl, rfl, rfl, rfl⟩

end

/-! ### After the protected call -/

/-- The operands of the runner at its places after a protected call; `b` is whether that ended well. -/
def Operands (b : Bool) (stack : List Value) : Nat → Prop
  | 6 => ∃ x, stack = [x, .bool b]
  | 7 | 9 => stack = [.bool b]
  | 8 => stack = []
  | 10 => b = true ∧ stack = []
  | 11 => b = true ∧ stack = [.bool true]
  | 12 => b = false ∧ stack = []
  | 13 => b = false ∧ stack = [.bool false]
  | 14 | 15 | 17 => b = false ∧ ∃ x, stack = [x, .bool false]
  | 16 | 18 => b = false ∧ ∃ x y, stack = [x, y, .bool false]
  | _ => False

/-- The runner goes on after a protected call. -/
structure GoesOn (b : Bool) (a : Activation) : Prop where
  code : a.code = runShape.code
  slots : a.slots.size = 4
  toClose : a.toClose = []
  stack : Operands b a.stack a.pc
  flag : a.pc = 8 → a.slots.getD 2 (.value .nil) = .value (.bool b)

/-- The runner waits for the text of an error, or for the function that makes it. -/
structure Asks (b : Bool) (a : Activation) : Prop where
  code : a.code = runShape.code
  slots : a.slots.size = 4
  toClose : a.toClose = []
  stack : a.stack = [.bool false]
  place : a.pc = 15 ∧ a.await = .first ∨ a.pc = 17 ∧ a.await = .results (.exactly 1)
  failed : b = false

/-- What the runner gives back: true, or false and two more values. -/
def Reply (b : Bool) (vs : List Value) : Prop :=
  if b then vs = [.bool true] else ∃ text trace, vs = [.bool false, text, trace]

theorem course_runner (b : Bool) : Machine.Course (GoesOn b) (Asks b) (Reply b) where
  step s a h := by
    obtain ⟨hcode, hslots, hclose, hstack, hflag⟩ := h
    rw [Activation.step_of_code hcode]
    obtain ⟨closure, chunk, function, upvalues, pc, slots, stack, spread, varargs, await, toClose,
      origin, isTail, extraArguments, isNested⟩ := a
    simp only at hcode hslots hclose hstack hflag ⊢
    subst hclose
    match pc, hstack with
    | 6, h =>
      obtain ⟨x, rfl⟩ := h
      exact .next ⟨hcode, by simpa [Activation.newSlot] using hslots, rfl, rfl,
        fun he : 7 = 8 => absurd he (by decide)⟩
    | 7, h =>
      obtain rfl : stack = [.bool b] := h
      exact .next ⟨hcode, by simpa [Activation.newSlot] using hslots, rfl, rfl,
        fun _ => by simp [Activation.newSlot, hslots]⟩
    | 8, h =>
      obtain rfl : stack = [] := h
      refine .next ⟨hcode, hslots, rfl, ?_, fun he : 9 = 8 => absurd he (by decide)⟩
      exact congrArg (fun v => [v]) (Activation.getSlot_value s (hflag rfl))
    | 9, h =>
      obtain rfl : stack = [.bool b] := h
      cases b with
      | true => exact .next ⟨hcode, hslots, rfl, ⟨rfl, rfl⟩, fun he : 10 = 8 => absurd he (by decide)⟩
      | false => exact .next ⟨hcode, hslots, rfl, ⟨rfl, rfl⟩, fun he : 12 = 8 => absurd he (by decide)⟩
    | 10, h =>
      obtain ⟨rfl, rfl⟩ := h
      exact .next ⟨hcode, hslots, rfl, ⟨rfl, rfl⟩, fun he : 11 = 8 => absurd he (by decide)⟩
    | 11, h =>
      obtain ⟨rfl, rfl⟩ := h
      exact .ret rfl
    | 12, h =>
      obtain ⟨rfl, rfl⟩ := h
      exact .next ⟨hcode, hslots, rfl, ⟨rfl, rfl⟩, fun he : 13 = 8 => absurd he (by decide)⟩
    | 13, h =>
      obtain ⟨rfl, rfl⟩ := h
      exact .next ⟨hcode, hslots, rfl, ⟨rfl, _, rfl⟩, fun he : 14 = 8 => absurd he (by decide)⟩
    | 14, h =>
      obtain ⟨rfl, x, rfl⟩ := h
      show Machine.Continues _ _ _
        (Step.ofOutcome s _ (s.index x (.string (bytes "tostring"))) _ none "index" .first)
      cases s.index x (.string (bytes "tostring")) with
      | value v => exact .next ⟨hcode, hslots, rfl, ⟨rfl, _, rfl⟩, fun he : 15 = 8 => absurd he (by decide)⟩
      | invoke g args => exact .call ⟨hcode, hslots, rfl, rfl, .inl ⟨rfl, rfl⟩, rfl⟩
      | fault e => exact .fail
    | 15, h =>
      obtain ⟨rfl, x, rfl⟩ := h
      exact .next ⟨hcode, hslots, rfl, ⟨rfl, _, _, rfl⟩, fun he : 16 = 8 => absurd he (by decide)⟩
    | 16, h =>
      obtain ⟨rfl, x, y, rfl⟩ := h
      exact .call ⟨hcode, hslots, rfl, rfl, .inr ⟨rfl, rfl⟩, rfl⟩
    | 17, h =>
      obtain ⟨rfl, x, rfl⟩ := h
      exact .next ⟨hcode, hslots, rfl, ⟨rfl, _, _, rfl⟩, fun he : 18 = 8 => absurd he (by decide)⟩
    | 18, h =>
      obtain ⟨rfl, x, y, rfl⟩ := h
      exact .ret ⟨_, _, rfl⟩
  resume s a vs h := by
    obtain ⟨hcode, hslots, hclose, hstack, hplace, rfl⟩ := h
    rcases hplace with ⟨hpc, hawait⟩ | ⟨hpc, hawait⟩
    all_goals
      simp only [Activation.resume, hawait, Step.pushAll]
      refine .next ⟨hcode, hslots, hclose, ?_, fun he => ?_⟩
    · simp only [Activation.push, hpc, hstack]
      exact ⟨rfl, _, rfl⟩
    · simp [Activation.push, hpc] at he
    · simp only [Activation.push, hpc, hstack]
      exact ⟨rfl, _, rfl⟩
    · simp [Activation.push, hpc] at he

/-! ### The reply -/

/-- A protected call that the host's function has made is over; `b` is whether it has had no error. -/
def Over (b : Bool) (m : Machine) : Prop :=
  ∃ call a s vs, m.frames = [.native call, .script a, .entry] ∧ m.waiting = [] ∧
    m.focus = .act (.done s (.bool b :: vs))

variable {w : Surroundings} {c c' : Context} {m m' : Machine} {f : Value} {call : NativeCall}
  {a : Activation} {k : Store → Except Value (List Value) → Act} {vs : List Value} {b : Bool}

theorem protectedResults_eq (r : Except Value (List Value)) :
    ∃ b vs, protectedResults r = .bool b :: vs := by
  cases r with
  | ok vs => exact ⟨true, vs, rfl⟩
  | error v => exact ⟨false, [v], rfl⟩

theorem Awaits.goesOn (h : Awaits a) (b : Bool) (vs : List Value) (s : Store) :
    Machine.Continues (GoesOn b) (Asks b) (Reply b) (a.resume s (.bool b :: vs)) := by
  have hpair : ∃ x, (adjust 2 (.bool b :: vs)).reverse = [x, .bool b] := by
    cases vs with
    | nil => exact ⟨_, rfl⟩
    | cons v vs => exact ⟨_, rfl⟩
  obtain ⟨x, hx⟩ := hpair
  simp only [Activation.resume, h.await, Step.pushAll, hx, h.stack]
  refine .next ⟨h.code, h.slots, h.toClose, ?_, fun he => ?_⟩
  · simp only [h.pc]
    exact ⟨x, rfl⟩
  · simp [h.pc] at he

theorem not_over_of_within (h : m.Within [.native call, .script a, .entry]) : ¬ Over b m := by
  rintro ⟨call', a', s, vs, hframes, hwaiting, hf⟩
  have hplaced := h.placed
  simp only [Machine.Placed, hf] at hplaced
  obtain ⟨_, rest, hrest, hs⟩ := hplaced
  rw [hwaiting] at hs
  obtain ⟨-, above, rfl, -⟩ := hs
  have hlength := congrArg List.length (hframes.symm.trans hrest)
  simp only [List.length_cons, List.length_append, List.length_nil] at hlength
  omega

/-- **The reply of the runner**, if there is one, tells how the protected call has ended, whatever the
script has done. -/
theorem Protects.reply (h : Protects f call a k m) (hs : Steps w Always c m c' m')
    (hend : m'.focus = .finished (.ok vs)) :
    ∃ b c₁ m₁, Steps w (fun _ m => ∀ b, ¬ Over b m) c m c₁ m₁ ∧ Over b m₁ ∧ Reply b vs := by
  obtain ⟨handler, hpending⟩ := h.pending
  obtain ⟨c₁, m₁, hto, ⟨s, r, hf⟩, hmain⟩ :=
    hs.leave_guarded hpending (h.main.within h.focus) hend
  obtain ⟨b, vs₁, hr⟩ := protectedResults_eq r
  rw [h.results, hr] at hf
  refine ⟨b, c₁, m₁, hto.mono fun _ _ hwithin b => not_over_of_within hwithin,
    ⟨_, a, s, vs₁, hmain.frames, hmain.waiting, hf⟩, ?_⟩
  have hdone : m₁.tick.Main [.script a, .entry] ∧ m₁.tick.focus = .deliver (.bool b :: vs₁) := by
    have htick : m₁.tick = { ({ m₁ with store := s } : Machine).dropped
        (.native { call with pending := .running }) [.script a, .entry] with
          focus := .deliver (.bool b :: vs₁) } := by
      unfold Machine.tick Machine.advanceBy
      simp only [hf, hmain.frames, Machine.act]
    rw [htick]
    exact ⟨⟨rfl, hmain.waiting, hmain.current, hmain.threads.of_eq rfl⟩, rfl⟩
  have hrest := (hto.rest hs hend).after (.ticked (by simp [hf, Focus.isBusy])) hend
  have hrest' := hrest.after (.ticked (by simp [hdone.2, Focus.isBusy])) hend
  have hon := Machine.on_deliver hdone.1 hdone.2 (h.awaits.goesOn b vs₁)
  exact on_finished (hrest'.on (course_runner b) hon) hend

end KernelConfig.Context
