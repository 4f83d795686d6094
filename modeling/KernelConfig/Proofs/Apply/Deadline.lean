import KernelConfig.Proofs.Apply.Interruptions
import KernelConfig.Proofs.Script.Callers
import KernelConfig.Proofs.Script.Gliding

/-!
The deadline: the hook that asks for it goes back to where it was called, or ends the call.
-/

set_option autoImplicit false

namespace KernelConfig.Context

open Script Script.Prelude

section Rules

variable {w : Surroundings} {L : Context → Prop} {R G : Context → Machine → Prop}
  {H : Option (Value × Nat)} {n : Nat} {m : Machine} {p : Spot} {rest : List Frame}

/-- What the script gets when it asks for the deadline. -/
def IsVerdict (c : Context) (vs : List Value) : Prop :=
  vs = [.text "ok"] ∨ c.timedOut = true ∧ ∃ message, vs = [.text "error", .text message]

theorem answer_deadline (w : Surroundings) (c : Context) (m : Machine) :
    ∃ vs c', answer w c m deadlineName [] = (m.answer vs, c') ∧ Quiet c c' ∧ IsVerdict c' vs := by
  have hrespond : respond w { c with shared := { c.shared with ticks := m.ticks } } m deadlineName [] =
      (.ok (checkDeadline w { c with shared := { c.shared with ticks := m.ticks } } m.ticks).1,
        (checkDeadline w { c with shared := { c.shared with ticks := m.ticks } } m.ticks).2) := by
    unfold respond
    rw [if_neg (by decide)]
    rfl
  unfold answer
  rw [hrespond]
  unfold checkDeadline
  cases w.settings.scriptTimeout with
  | none => exact ⟨_, _, rfl, ⟨⟨rfl, rfl, rfl, rfl, rfl⟩, rfl, rfl⟩, .inl rfl⟩
  | some limit =>
    dsimp only
    split
    · exact ⟨_, _, rfl, ⟨⟨rfl, rfl, rfl, rfl, rfl⟩, rfl, rfl⟩, .inl rfl⟩
    · exact ⟨_, _, rfl, ⟨⟨rfl, rfl, rfl, rfl, rfl⟩, rfl, rfl⟩, .inr ⟨rfl, _, rfl⟩⟩

/-- The script asks for the deadline: there is time left, or it has found that there is none. -/
theorem Follows.askedDeadline (hR : Backward w L R) (hL : ∀ c c', L c → Quiet c c' → L c')
    {native : NativeCall} (hf : p.focus = .asking deadlineName [])
    (hframes : p.frames = .native native :: rest)
    (hok : Follows L R H n m { p.drop (.native native) rest with focus := .deliver [.text "ok"] })
    (hover : ∀ message c hook ticks environment, L c → c.timedOut = true → Armed H n hook →
      R c ((({ p.drop (.native native) rest with
        focus := .deliver [.text "error", .text message] } : Spot).on m).clocked hook ticks environment)) :
    Follows L R H n m p := by
  intro c hook ticks environment hc hh
  obtain ⟨vs, c', hanswer, hquiet, hverdict⟩ :=
    answer_deadline w c ((p.on m).clocked hook ticks environment)
  refine hR.asked hc hf ?_
  have hframes' : ((p.on m).clocked hook ticks environment).frames = .native native :: rest := hframes
  rw [hanswer]
  simp only [Machine.answer, hframes']
  rcases hverdict with rfl | ⟨htime, message, rfl⟩
  · exact hok c' hook ticks environment (hL c c' hc hquiet) hh
  · exact hover message c' hook ticks environment (hL c c' hc hquiet) htime hh

/-- The function by which a script is held to its deadline, and what it asks. -/
structure Timed (l : Places) (s : Store) (hook check : Nat) : Prop where
  function : s.HasFunction hook 25 [check, l.expired, l.env]
  cell : s.cell check = .host (.function deadlineName)
  bound : check < s.cells.size
  fixed : check ∉ l.changing

theorem Timed.of_kept {l : Places} {s s' : Store} {hook check : Nat} (h : Timed l s hook check)
    (hk : Kept l s s') : Timed l s' hook check :=
  ⟨hk.hasFunction h.function, (hk.cells check (ne_expired h.fixed) h.bound).trans h.cell,
    Nat.lt_of_lt_of_le h.bound hk.cellsSize, h.fixed⟩

theorem Timed.of_extends {l : Places} {s s' : Store} {hook check : Nat} (h : Timed l s hook check)
    (he : s.Extends s') : Timed l s' hook check where
  function := h.function.of_extends he
  cell := he.cell_eq h.cell (by simp)
  bound := (Array.getElem?_eq_some_iff.mp (he.cells check _ (Array.getElem?_eq_getElem h.bound))).1
  fixed := h.fixed

section

variable {l : Places} {s : Store} {chunk : Chunk} {f : Function} {check hook : Nat}
  {frames : List Frame} {depth nesting : Nat}

/-- The hook of the deadline, at a place, with the verdict and the message that it has got. -/
def hooking (l : Places) (chunk : Chunk) (f : Function) (check hook : Nat) (pc : Nat)
    (verdict message : Value) (stack : List Value) (await : Await) : Activation :=
  { closure := hook, chunk, function := f, upvalues := #[check, l.expired, l.env], pc
    slots := #[.value verdict, .value message], stack, varargs := [], await
    origin := some ⟨.hook, bytes "?"⟩, isTail := false, extraArguments := 0, isNested := true }

theorem hooking_code (hcode : f.ops.toList.map (·.instr) = hookShape.code) (pc : Nat)
    (verdict message : Value) (stack : List Value) (await : Await) :
    (hooking l chunk f check hook pc verdict message stack await).code = hookShape.code := hcode

/-- There is time left: the hook goes back to where it was called. -/
theorem follows_hookReturns (hR : Backward w L R) (hcode : f.ops.toList.map (·.instr) = hookShape.code)
    (hagain : Follows L R H 1 m ⟨s, frames, depth, nesting, false, .script⟩) :
    Follows L R H 98 m ⟨s, .script (hooking l chunk f check hook 2 .nil .nil []
      (.results (.exactly 2))) :: .hook :: frames, depth + 1, nesting + 1, true,
      .deliver [.text "ok"]⟩ := by
  have hsafe : ∀ (s : Store) (frames : List Frame), Safe L R H m
      ⟨s, frames, depth + 1, nesting + 1, true, .script⟩ := fun _ _ => .inl rfl
  have hgot : (hooking l chunk f check hook 2 .nil .nil [] (.results (.exactly 2))).resume s
      [.text "ok"] = .next s (hooking l chunk f check hook 2 .nil .nil [.nil, .text "ok"]
        (.results (.exactly 2))) := rfl
  have htest : (hooking l chunk f check hook 2 .nil .nil [.nil, .text "ok"]
      (.results (.exactly 2))).glide s hookShape.code 6 =
      some (hooking l chunk f check hook 15 (.text "ok") .nil [] (.results (.exactly 2))) := rfl
  have hret : (hooking l chunk f check hook 15 (.text "ok") .nil [] (.results (.exactly 2))).step s =
      .ret s (hooking l chunk f check hook 16 (.text "ok") .nil [] (.results (.exactly 2))) [] := by
    rw [Activation.step_of_code (hooking_code hcode _ _ _ _ _)]
    rfl
  refine .deliver hR rfl rfl hgot ?_
  refine .glide hR 6 (hooking_code hcode _ _ _ _ _) rfl rfl (fun _ _ => hsafe _ _) htest ?_
  exact .ret hR rfl rfl (hsafe _ _) hret (.hookReturned hR rfl rfl (hagain.mono (by decide)))

/-- There is none left: the message is kept, and raised as an error that ends the call. -/
theorem runs_hookRaises (hcode : f.ops.toList.map (·.instr) = hookShape.code) (hp : Prepared l s)
    (hexposed : Frame.Exposed frames) (hdepth : depth < 100) (hnesting : nesting < 100)
    (message : String) :
    Runs w L G H 98 ⟨s, .script (hooking l chunk f check hook 2 .nil .nil []
      (.results (.exactly 2))) :: .hook :: frames, depth + 1, nesting + 1, true,
      .deliver [.text "error", .text message]⟩ := by
  have hcalm : ∀ (s : Store) (frames : List Frame), IsCalm w L G H
      ⟨s, frames, depth + 1, nesting + 1, true, .script⟩ := fun _ _ => .inl rfl
  have hgot : (hooking l chunk f check hook 2 .nil .nil [] (.results (.exactly 2))).resume s
      [.text "error", .text message] = .next s (hooking l chunk f check hook 2 .nil .nil
        [.text message, .text "error"] (.results (.exactly 2))) := rfl
  have htest : (hooking l chunk f check hook 2 .nil .nil [.text message, .text "error"]
      (.results (.exactly 2))).glide s hookShape.code 7 =
      some (hooking l chunk f check hook 9 (.text "error") (.text message) [.text message]
        (.results (.exactly 2))) := rfl
  let s₁ := s.setCell l.expired (.text message)
  have hp₁ : Prepared l s₁ := hp.of_kept (.setExpired l s _)
  have hset : (hooking l chunk f check hook 9 (.text "error") (.text message) [.text message]
      (.results (.exactly 2))).step s = .next s₁ (hooking l chunk f check hook 10 (.text "error")
        (.text message) [] (.results (.exactly 2))) := by
    rw [Activation.step_of_code (hooking_code hcode _ _ _ _ _)]
    rfl
  have hglobal : s₁.index (.table l.globals) (.string (bytes "error")) = .value (.native .error) :=
    hp₁.index (by simp [Places.fields]) (by simp)
  have herror : (hooking l chunk f check hook 10 (.text "error") (.text message) []
      (.results (.exactly 2))).glide s₁ hookShape.code 4 =
      some (hooking l chunk f check hook 14 (.text "error") (.text message)
        [.int 2, .text message, .native .error] (.results (.exactly 2))) := by
    simp [hooking, Activation.glide, hookShape, getGlobal, Instr.isPlain, Step.instruction,
      Activation.push, Activation.getSlot, hp₁.env, hglobal, Step.ofOutcome]
  have hcall : (hooking l chunk f check hook 14 (.text "error") (.text message)
      [.int 2, .text message, .native .error] (.results (.exactly 2))).step s₁ =
      .call s₁ (hooking l chunk f check hook 15 (.text "error") (.text message) []
        (.results (.exactly 0))) (.native .error) [.text message, .int 2] (ofGlobal "error") false := by
    rw [Activation.step_of_code (hooking_code hcode _ _ _ _ _)]
    rfl
  have hroom : nesting + 1 < 200 := by omega
  refine .deliver rfl rfl hgot ?_
  refine .glide 7 (hooking_code hcode _ _ _ _ _) rfl rfl (fun _ _ => hcalm _ _) htest ?_
  refine .next rfl rfl (hcalm _ _) hset ?_
  refine .glide 4 (hooking_code hcode _ _ _ _ _) rfl rfl (fun _ _ => hcalm _ _) herror ?_
  refine .task rfl rfl (hcalm _ _) ⟨?_, hroom⟩ hcall ?_
  · show depth + 1 < 190000
    omega
  obtain ⟨k, hk, hraise⟩ := Library.task_error (bytes message) (show 0 < 2 by decide) s₁
  refine .levels (congrArg Focus.act hk) rfl fun levels => ?_
  exact .raised (congrArg Focus.act (hraise levels)) rfl (.raise rfl rfl ⟨rfl, rfl, hexposed⟩ hroom)

/-- The hook's function, called at a place where a script is being run, goes back there, or it is told
that the time is over. -/
theorem follows_hook (hR : Backward w L R) (hL : ∀ c c', L c → Quiet c c' → L c')
    (ht : Timed l s hook check)
    (hagain : Follows L R H 1 m ⟨s, frames, depth, nesting, false, .script⟩)
    (hover : ∀ (f : Function) (chunk : Chunk) message, f.ops.toList.map (·.instr) = hookShape.code →
      ∀ c h ticks environment, L c → c.timedOut = true → Armed H 98 h →
        R c (((⟨s, .script (hooking l chunk f check hook 2 .nil .nil [] (.results (.exactly 2))) ::
          .hook :: frames, depth + 1, nesting + 1, true,
          .deliver [.text "error", .text message]⟩ : Spot).on m).clocked h ticks environment)) :
    Follows L R H 100 m ((⟨s, .hook :: frames, depth, nesting, true, .script⟩ : Spot).entered hook
      [.text "count", .nil] (some ⟨.hook, bytes "?"⟩) true) := by
  obtain ⟨f, hcode, henter⟩ := Activation.enter_of_hasFunction ht.function
    (show (25, hookShape) ∈ shapes by simp [shapes]) [.text "count", .nil]
    (some ⟨.hook, bytes "?"⟩) true
  generalize (s.closure hook).chunk = chunk at henter
  have hstart : Activation.enter s hook [.text "count", .nil] (some ⟨.hook, bytes "?"⟩) false 0 true =
      hooking l chunk f check hook 0 .nil .nil [] .nothing := henter
  simp only [Spot.entered, Spot.push, hstart]
  have hask : (hooking l chunk f check hook 0 .nil .nil [] .nothing).glide s hookShape.code 1 =
      some (hooking l chunk f check hook 1 .nil .nil [.host (.function deadlineName)] .nothing) := by
    simp [hooking, Activation.glide, hookShape, Instr.isPlain, Step.instruction, Activation.push,
      ht.cell]
  have hcall : (hooking l chunk f check hook 1 .nil .nil [.host (.function deadlineName)]
      .nothing).step s = .call s (hooking l chunk f check hook 2 .nil .nil [] (.results (.exactly 2)))
        (.host (.function deadlineName)) [] (ofUpvalue "check") false := by
    rw [Activation.step_of_code (hooking_code hcode _ _ _ _ _)]
    rfl
  refine .glide hR 1 (hooking_code hcode _ _ _ _ _) rfl rfl (fun _ _ => .inl rfl) hask ?_
  refine .ask hR rfl rfl (.inl rfl) (fun h => by cases h) hcall ?_
  exact .askedDeadline hR hL rfl rfl (follows_hookReturns hR hcode hagain) fun message =>
    hover f chunk message hcode

/-- Calling the hook of the deadline goes back with much of the time left, unless a limit is reached or
the time is over. -/
theorem recovers_of_timed (hR : Backward w L R) (hL : ∀ c c', L c → Quiet c c' → L c')
    (ht : Timed l s hook check)
    (hfull : ∀ v, Machine.depthLimit ≤ depth ∨ Machine.nestingLimit ≤ nesting →
      Follows L R (some (.closure hook, 10000)) 0 m ⟨s, .hook :: frames, depth, nesting, true, .raise v⟩)
    (hover : ∀ (f : Function) (chunk : Chunk) message, f.ops.toList.map (·.instr) = hookShape.code →
      ∀ c h ticks environment, L c → c.timedOut = true → Armed (some (.closure hook, 10000)) 98 h →
        R c (((⟨s, .script (hooking l chunk f check hook 2 .nil .nil [] (.results (.exactly 2))) ::
          .hook :: frames, depth + 1, nesting + 1, true,
          .deliver [.text "error", .text message]⟩ : Spot).on m).clocked h ticks environment)) :
    Recovers L R (some (.closure hook, 10000)) m ⟨s, frames, depth, nesting, false, .script⟩ := by
  rintro hagain c ⟨function, count, left⟩ ticks environment hc hh
  obtain ⟨rfl, rfl⟩ : function = .closure hook ∧ count = 10000 := by simpa using hh
  let q : Spot := ⟨s, .hook :: frames, depth, nesting, true, .script⟩
  have hcalled : ∀ {p : Spot}, (q.on m).call (.closure hook) [.text "count", .nil]
      (some ⟨.hook, bytes "?"⟩) true = p.on m →
      Follows L R (some (.closure hook, 10000)) 100 m p →
      R c ((((⟨s, frames, depth, nesting, false, .script⟩ : Spot).on m).clocked
        (some ⟨.closure hook, 10000, left⟩) ticks environment).callHook ⟨.closure hook, 10000, left⟩) := by
    intro p hcall hp
    rw [Machine.callHook_clocked]
    show R c (((q.on m).call (.closure hook) [.text "count", .nil] (some ⟨.hook, bytes "?"⟩)
      true).clocked (some ⟨.closure hook, 10000, 10000⟩) ticks environment)
    rw [hcall]
    refine hp c _ ticks environment hc ⟨hh, fun h he => ?_⟩
    cases he
    exact (by decide : 100 ≤ 10000)
  by_cases hnesting : Machine.nestingLimit ≤ nesting
  · obtain ⟨v, hv⟩ := Spot.call_of_not_allows (p := q) (m := m) hnesting (.closure hook)
      [.text "count", .nil] (some ⟨.hook, bytes "?"⟩)
    exact hcalled hv ((hfull v (.inr hnesting)).mono (Nat.zero_le _))
  have hallows : q.Allows true := fun _ => Nat.not_le.mp hnesting
  by_cases hdepth : Machine.depthLimit ≤ depth
  · obtain ⟨v, hv⟩ := Spot.call_closure_of_full (p := q) (m := m) hallows hdepth hook
      [.text "count", .nil] (some ⟨.hook, bytes "?"⟩)
    exact hcalled hv ((hfull v (.inl hdepth)).mono (Nat.zero_le _))
  · exact hcalled (Spot.call_closure hallows (Nat.not_le.mp hdepth) hook)
      (follows_hook hR hL ht hagain hover)

end

/-- Calling the hook of the deadline goes back with much of the time left, or ends the call. -/
theorem interruptible_of_timed (hL : ∀ c c', L c → Quiet c c' → L c') {l : Places} {s : Store}
    {hook check : Nat} (hp : Prepared l s) (ht : Timed l s hook check) {frames : List Frame}
    {depth nesting : Nat} (hexposed : Frame.Exposed frames) (hdepth : depth < 100) (hnesting : nesting < 100) :
    Interruptible w L G (some (.closure hook, 10000)) ⟨s, frames, depth, nesting, false, .script⟩ := by
  have hroom : ¬ (Machine.depthLimit ≤ depth ∨ Machine.nestingLimit ≤ nesting) := by
    simp only [Machine.depthLimit, Machine.nestingLimit]
    omega
  have hrecovers := recovers_of_timed (m := {}) backward_leads hL ht (fun v h => absurd h hroom)
    fun f chunk message hcode c h ticks environment hc _ hh =>
      runs_iff.mp (runs_hookRaises (w := w) (G := G) hcode hp hexposed hdepth hnesting message) c h ticks
        environment hc hh
  simpa only [Interruptible, Recovers, runs_iff, Spot.machine_eq] using hrecovers

/-- Whatever hook there is, it is the one of the deadline. -/
def Watched (H : Option (Value × Nat)) (l : Places) (s : Store) : Prop :=
  H = none ∨ ∃ hook check, H = some (.closure hook, 10000) ∧ Timed l s hook check

theorem Watched.of_kept {l : Places} {s s' : Store} (h : Watched H l s) (hk : Kept l s s') :
    Watched H l s' := by
  rcases h with rfl | ⟨hook, check, rfl, ht⟩
  · exact .inl rfl
  · exact .inr ⟨hook, check, rfl, ht.of_kept hk⟩

theorem Watched.of_extends {l : Places} {s s' : Store} (h : Watched H l s) (he : s.Extends s') :
    Watched H l s' := by
  rcases h with rfl | ⟨hook, check, rfl, ht⟩
  · exact .inl rfl
  · exact .inr ⟨hook, check, rfl, ht.of_extends he⟩

theorem isCalm_of_watched (hL : ∀ c c', L c → Quiet c c' → L c') {l : Places} {s : Store}
    (hp : Prepared l s) (hw : Watched H l s) {frames : List Frame} {depth nesting : Nat}
    (hexposed : Frame.Exposed frames) (hdepth : depth < 100) (hnesting : nesting < 100) :
    IsCalm w L G H ⟨s, frames, depth, nesting, false, .script⟩ := by
  rcases hw with rfl | ⟨hook, check, rfl, ht⟩
  · exact .inr (.inl rfl)
  · exact .inr (.inr (interruptible_of_timed hL hp ht hexposed hdepth hnesting))

/-- A function that is alone on the stack is calm. -/
theorem isCalm_alone (hL : ∀ c c', L c → Quiet c c' → L c') {l : Places} {s : Store}
    (hp : Prepared l s) (hw : Watched H l s) (a : Activation) (ha : a.toClose = []) :
    IsCalm w L G H ⟨s, [.script a, .entry], 1, 2, false, .script⟩ :=
  isCalm_of_watched hL hp hw ⟨ha, trivial⟩ (by decide) (by decide)

end Rules

end KernelConfig.Context
