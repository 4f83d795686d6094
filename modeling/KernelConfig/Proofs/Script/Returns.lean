import KernelConfig.Proofs.Script.Stacks

/-!
Returns: how a call comes back to the function that has made it, down to the one that the host has called
itself. An error that comes down to the host is the end of everything else.
-/

set_option autoImplicit false

namespace KernelConfig.Script.Machine

variable {m m' : Machine} {base rest : List Frame}

/-- The main thread is being run, with these frames. -/
structure Main (frames : List Frame) (m : Machine) : Prop where
  frames : m.frames = frames
  waiting : m.waiting = []
  current : m.current = 0
  threads : m.Threads

theorem AtBase.main (h : AtBase base m m.frames) (ht : m.Threads) : Main base m :=
  ⟨h.2.1, h.1, h.2.2, ht⟩

theorem Within.not_finished (h : Within base m) {r : Except Value (List Value)} :
    m.focus ≠ .finished r := by
  intro hf
  have hplaced := h.placed
  simp only [Placed, hf] at hplaced

/-- The main thread makes a call. -/
theorem Main.within (h : Main base m) {f : Value} {args : List Value} {origin : Option Origin}
    {isNested : Bool} (hf : m.focus = .call f args origin isNested) : Within base m := by
  refine ⟨h.threads, ?_⟩
  simp only [Placed, hf]
  exact AtBase.stacked ⟨h.waiting, h.frames, h.current⟩

/-- A guarded call ends with a result for the function that has made it. -/
theorem Within.tick_guarded {c : NativeCall} {handler : Option Value}
    {k : Store → Except Value (List Value) → Act} (hpending : c.pending = .guarded handler k)
    (h : Within (.native c :: rest) m) :
    Stays (.native c :: rest) m.tick ∨ (∃ s r, m.tick.focus = .act (k s r)) ∧
      Main (.native { c with pending := .running } :: rest) m.tick := by
  have hbase : IsBase (.native c :: rest) := fun k' he => by
    rw [hpending] at he
    cases he
  have hend : ∀ (m' : Machine) r, AtBase (.native c :: rest) m' (.native c :: rest) → m'.Threads →
      (∃ s r', (m'.proceed c rest fun s => k s r).focus = .act (k s r')) ∧
        Main (.native { c with pending := .running } :: rest) (m'.proceed c rest fun s => k s r) :=
    fun m' r hat ht => ⟨⟨_, r, rfl⟩, rfl, hat.1, hat.2.2, ht.of_eq rfl⟩
  have hclosed : ∀ (m' : Machine) error toClose, AtBase (.native c :: rest) m' (.native c :: rest) →
      m'.Threads → Stays (.native c :: rest) (m'.closeNext error (.native c :: rest) toClose) ∨
        (∃ s r, (m'.closeNext error (.native c :: rest) toClose).focus = .act (k s r)) ∧
          Main (.native { c with pending := .running } :: rest)
            (m'.closeNext error (.native c :: rest) toClose) := by
    intro m' error toClose hat ht
    rcases stays_closeNext hat.stacked ht error toClose with hstays | ⟨-, rfl⟩
    · exact .inl hstays
    · cases error with
      | none => exact .inl (.inr ⟨.nil, by simp [closeNext, hpending]⟩)
      | some e =>
        simp only [closeNext, hpending]
        exact .inr (hend m' (.error e) hat ht)
  rcases h.tick hbase with hstays | ⟨hat, vs, hf⟩ | ⟨⟨hat, toClose, gone, goneNested, hu⟩, v, hf⟩ |
      ⟨m', error, hat, ht, he⟩
  · exact .inl hstays
  · right
    have hdeliver : m.tick = m.proceed c rest fun s => k s (.ok vs) := by
      simp only [tick_deliver hf, deliver, hat.2.1, hpending]
    rw [hdeliver]
    exact hend m (.ok vs) ⟨hat.1, rfl, hat.2.2⟩ h.threads
  · have hcaught : Frame.unwind m.store toClose gone goneNested (.native c :: rest) =
        some ⟨.native c :: rest, toClose, gone, goneNested⟩ := by
      obtain ⟨function, pending, origin, extraArguments, isNested⟩ := c
      simp only at hpending
      subst hpending
      rfl
    rw [tick_unwind hf, unwind_eq (hu.trans hcaught)]
    exact hclosed _ _ toClose hat (h.threads.of_eq rfl)
  · rw [he]
    exact hclosed m' error [] hat ht

/-- An error comes down to the host: what is left is to close variables. -/
def Doomed (m : Machine) : Prop := ∃ others e, Within [.closing others (some e), .entry] m

theorem doomed_closeNext (hm : AtBase [.entry] m [.entry]) (ht : m.Threads) (e : Value)
    (toClose : List Value) : (m.closeNext (some e) [.entry] toClose).Doomed ∨
      (m.closeNext (some e) [.entry] toClose).Failed := by
  cases toClose with
  | nil => exact .inr ⟨e, rfl⟩
  | cons v others =>
    left
    exact ⟨others, e, within_call (m := { m with frames := [.closing others (some e), .entry] })
      (AtBase.stacked ⟨hm.1, rfl, hm.2.2⟩) (ht.of_eq rfl) _ _ _ _⟩

/-- Frames that the host waits below and that catch no error. -/
structure IsOpen (base : List Frame) : Prop where
  isBase : IsBase base
  passes : ∀ s toClose gone goneNested, ∃ u, Frame.unwind s toClose gone goneNested base = some u ∧
    u.frames = [.entry]
  fails : ∀ (m : Machine) error, (m.closeNext error base []).Failed

theorem isOpen_script {a : Activation} : IsOpen [.script a, .entry] :=
  ⟨trivial, fun _ _ _ _ => ⟨_, rfl, rfl⟩, fun _ _ => ⟨_, rfl⟩⟩

theorem isOpen_hook {a : Activation} : IsOpen [.hook, .script a, .entry] :=
  ⟨trivial, fun _ _ _ _ => ⟨_, rfl, rfl⟩, fun _ _ => ⟨_, rfl⟩⟩

theorem isOpen_handling {a : Activation} : IsOpen [.handling, .script a, .entry] :=
  ⟨trivial, fun _ _ _ _ => ⟨_, rfl, rfl⟩, fun _ _ => ⟨_, rfl⟩⟩

theorem isOpen_closing {others : List Value} {error : Option Value} :
    IsOpen [.closing others error, .entry] :=
  ⟨trivial, fun _ _ _ _ => ⟨_, rfl, rfl⟩, fun _ _ => ⟨_, rfl⟩⟩

/-- A call that nothing guards comes back with results, or it is doomed. -/
theorem Within.tick_open (hopen : IsOpen base) (h : Within base m) :
    Stays base m.tick ∨ m.tick.Doomed ∨ Main base m ∧ ∃ vs, m.focus = .deliver vs := by
  rcases h.tick hopen.isBase with hstays | ⟨hat, hf⟩ | ⟨⟨hat, toClose, gone, goneNested, hu⟩, v, hf⟩ |
      ⟨m', error, hat, ht, he⟩
  · exact .inl hstays
  · exact .inr (.inr ⟨hat.main h.threads, hf⟩)
  · obtain ⟨u, hpass, hframes⟩ := hopen.passes m.store toClose gone goneNested
    rw [tick_unwind hf, unwind_eq (hu.trans hpass), hframes]
    rcases doomed_closeNext (m := m.unwound u) ⟨hat.1, rfl, hat.2.2⟩ (h.threads.of_eq rfl) _
      u.toClose with hdoomed | hfailed
    · exact .inr (.inl hdoomed)
    · exact .inl (.inr hfailed)
  · rw [he]
    exact .inl (.inr (hopen.fails m' error))

/-- There is no way back from closing variables. -/
theorem Doomed.tick (h : m.Doomed) : m.tick.Doomed ∨ m.tick.Failed := by
  obtain ⟨others, e, h⟩ := h
  rcases h.tick_open isOpen_closing with (hwithin | hfailed) | hdoomed | ⟨hmain, vs, hf⟩
  · exact .inl ⟨others, e, hwithin⟩
  · exact .inr hfailed
  · exact .inl hdoomed
  · have hdeliver : m.tick = m.closeNext (some e) [.entry] others := by
      simp only [tick_deliver hf, deliver, hmain.frames]
    rw [hdeliver]
    exact doomed_closeNext ⟨hmain.waiting, rfl, hmain.current⟩ hmain.threads e others

/-- Nothing will come back to the host but an error. -/
inductive Sunk (m : Machine) : Prop
  | raising {a : Activation} {v : Value} (h : Main [.script a, .entry] m) (hf : m.focus = .raise v)
  | handling {a : Activation} (h : Within [.handling, .script a, .entry] m)
  | unwinding {a : Activation} {v : Value} (h : Main [.script a, .entry] m) (hf : m.focus = .unwind v)
  | doomed (h : m.Doomed)
  | failed (h : m.Failed)

theorem Doomed.sunk (h : m.Doomed ∨ m.Failed) : m.Sunk := h.elim .doomed .failed

theorem Sunk.tick (h : m.Sunk) : m.tick.Sunk := by
  cases h with
  | @raising a v hmain hf =>
    have hhandler : Frame.handler? m.frames = some (some (.native .debugTraceback)) := by
      rw [hmain.frames]
      rfl
    rw [tick_raise hf]
    simp only [raise, hhandler]
    split
    · exact .unwinding (a := a) ⟨hmain.frames, hmain.waiting, hmain.current, hmain.threads.of_eq rfl⟩ rfl
    · have hcallee : m.store.callee 100 (.native .debugTraceback) [v] =
          some (.native .debugTraceback, [v], 0) := rfl
      exact .handling (a := a) (within_enter (m := { m with frames := .handling :: m.frames })
        (AtBase.stacked ⟨hmain.waiting, by rw [hmain.frames], hmain.current⟩)
        (hmain.threads.of_eq rfl) hcallee none false true 0)
  | @handling a hwithin =>
    rcases hwithin.tick_open isOpen_handling with (hwithin | hfailed) | hdoomed | ⟨hmain, vs, hf⟩
    · exact .handling hwithin
    · exact .failed hfailed
    · exact .doomed hdoomed
    · have htick : m.tick = { m with frames := [.script a, .entry], focus := .unwind (first vs) } := by
        simp only [tick_deliver hf, deliver, hmain.frames]
      rw [htick]
      exact .unwinding ⟨rfl, hmain.waiting, hmain.current, hmain.threads.of_eq rfl⟩ rfl
  | @unwinding a v hmain hf =>
    obtain ⟨u, hpass, hframes⟩ := (isOpen_script (a := a)).passes m.store [] 0 0
    rw [← hmain.frames] at hpass
    rw [tick_unwind hf, unwind_eq hpass, hframes]
    exact Doomed.sunk (doomed_closeNext (m := m.unwound u) ⟨hmain.waiting, rfl, hmain.current⟩
      (hmain.threads.of_eq rfl) _ u.toClose)
  | doomed h => exact Doomed.sunk h.tick
  | failed h =>
    obtain ⟨v, hv⟩ := h
    rw [tick_finished hv]
    exact .failed ⟨v, hv⟩

theorem Sunk.not_ok {vs : List Value} (h : m.Sunk) : m.focus ≠ .finished (.ok vs) := by
  intro hend
  cases h with
  | raising _ hf => cases hend.symm.trans hf
  | handling h => exact h.not_finished hend
  | unwinding _ hf => cases hend.symm.trans hf
  | doomed h =>
    obtain ⟨others, e, h⟩ := h
    exact h.not_finished hend
  | failed h =>
    obtain ⟨v, hv⟩ := h
    cases hend.symm.trans hv

/-! ### The function that the host has called -/

section

variable (P W : Activation → Prop) (D : List Value → Prop)

/-- A step of a function that goes on as `P` says, waits as `W` says and returns what `D` says. -/
inductive Continues : Step → Prop
  | next {s : Store} {a : Activation} (h : P a) : Continues (.next s a)
  | call {s : Store} {a : Activation} {f : Value} {args : List Value} {origin : Option Origin}
      {isNested : Bool} (h : W a) : Continues (.call s a f args origin isNested)
  | ret {s : Store} {a : Activation} {vs : List Value} (h : D vs) : Continues (.ret s a vs)
  | fail {s : Store} {a : Activation} {message : Bytes} : Continues (.fail s a message)

/-- Whatever is in the store, and whatever a call comes back with, the function goes on in this way. -/
structure Course : Prop where
  step : ∀ (s : Store) (a : Activation), P a → Continues P W D (a.step s)
  resume : ∀ (s : Store) (a : Activation) (vs : List Value), W a → Continues P W D (a.resume s vs)

/-- Where the machine is while the function that the host has called takes its course. -/
inductive On (m : Machine) : Prop
  | running {a : Activation} (h : Main [.script a, .entry] m) (hf : m.focus = .script) (ha : P a)
  | hooked {a : Activation} (h : Within [.hook, .script a, .entry] m) (ha : P a)
  | waiting {a : Activation} (h : Within [.script a, .entry] m) (ha : W a)
  | replying {vs : List Value} (h : m.frames = [.entry]) (hf : m.focus = .deliver vs) (hd : D vs)
  | replied {vs : List Value} (hf : m.focus = .finished (.ok vs)) (hd : D vs)
  | sunk (h : m.Sunk)

variable {P W D}

theorem on_afterStep (hwaiting : m.waiting = []) (hcurrent : m.current = 0) (ht : m.Threads)
    {step : Step} (h : Continues P W D step) : On P W D (m.afterStep [.entry] step) := by
  cases h with
  | next ha => exact .running ⟨rfl, hwaiting, hcurrent, ht.of_eq rfl⟩ rfl ha
  | @call s a f args origin isNested ha =>
    exact .waiting (within_call (m := { m with store := s, frames := [.script a, .entry] })
      (AtBase.stacked ⟨hwaiting, rfl, hcurrent⟩) (ht.of_eq rfl) f args origin isNested) ha
  | ret hd => exact .replying rfl rfl hd
  | fail => exact .sunk (.raising ⟨rfl, hwaiting, hcurrent, ht.of_eq rfl⟩ rfl)

/-- A call has come back to the function. -/
theorem on_deliver {a : Activation} {vs : List Value} (h : Main [.script a, .entry] m)
    (hf : m.focus = .deliver vs) (ha : ∀ s, Continues P W D (a.resume s vs)) : On P W D m.tick := by
  have htick : m.tick =
      ({ m with store := {}, frames := [] } : Machine).afterStep [.entry] (a.resume m.store vs) := by
    simp only [tick_deliver hf, deliver, h.frames]
  rw [htick]
  exact on_afterStep h.waiting h.current (h.threads.of_eq rfl) (ha _)

/-- **A transition leaves the function on its course.** -/
theorem On.tick (hc : Course P W D) (h : On P W D m) : On P W D m.tick := by
  cases h with
  | @running a hmain hf ha =>
    by_cases ht : m.HasTime 1
    · rw [tick_of_time ⟨hf, hmain.frames⟩ ht, runFor_one]
      exact on_afterStep (m := ({ m with store := {}, frames := [] } : Machine).executed 1)
        hmain.waiting hmain.current (Threads.executed (hmain.threads.of_eq rfl) 1)
        (hc.step m.store a ha)
    · obtain ⟨h, -, htick, -⟩ := tick_of_no_time ⟨hf, hmain.frames⟩ ht
      rw [htick]
      exact .hooked (within_callHook
        (AtBase.stacked ⟨hmain.waiting, by rw [hmain.frames], hmain.current⟩) hmain.threads h) ha
  | @hooked a hwithin ha =>
    rcases hwithin.tick_open isOpen_hook with (hwithin | hfailed) | hdoomed | ⟨hmain, vs, hf⟩
    · exact .hooked hwithin ha
    · exact .sunk (.failed hfailed)
    · exact .sunk (.doomed hdoomed)
    · have htick : m.tick =
          { m with frames := [.script a, .entry], inHook := false, focus := .script } := by
        simp only [tick_deliver hf, deliver, hmain.frames]
      rw [htick]
      exact .running ⟨rfl, hmain.waiting, hmain.current, hmain.threads.of_eq rfl⟩ rfl ha
  | @waiting a hwithin ha =>
    rcases hwithin.tick_open isOpen_script with (hwithin | hfailed) | hdoomed | ⟨hmain, vs, hf⟩
    · exact .waiting hwithin ha
    · exact .sunk (.failed hfailed)
    · exact .sunk (.doomed hdoomed)
    · exact on_deliver hmain hf fun s => hc.resume s a vs ha
  | @replying vs hframes hf hd =>
    have htick : m.tick = { m with focus := .finished (.ok vs) } := by
      simp only [tick_deliver hf, deliver, hframes]
    rw [htick]
    exact .replied rfl hd
  | @replied vs hf hd =>
    rw [tick_finished hf]
    exact .replied hf hd
  | sunk h => exact .sunk h.tick

end

end KernelConfig.Script.Machine
