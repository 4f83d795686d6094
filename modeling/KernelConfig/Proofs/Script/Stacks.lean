import KernelConfig.Proofs.Script.Ticks

/-!
Stacks: whatever a script does, the frames below it stay in place, until its call returns to them or an
error comes down to them.
-/

set_option autoImplicit false

namespace KernelConfig.Script

/-- Frames that a script has made: none of them belongs to the host, and hooks are called from functions
of the script. -/
def Frame.Inner : List Frame → Prop
  | [] => True
  | f :: rest => match f with
    | .entry => False
    | .hook => (∃ a below, rest = .script a :: below) ∧ Inner rest
    | _ => Inner rest

/-- What can be on top of frames with a property. -/
inductive Frame.Top (S : List Frame → Prop) : List Frame → Prop
  | script (a : Activation) {rest : List Frame} (h : S rest) : Top S (.script a :: rest)
  | native (c : NativeCall) {rest : List Frame} (h : S rest) : Top S (.native c :: rest)
  | handling {rest : List Frame} (h : S rest) : Top S (.handling :: rest)
  | closing (others : List Value) (error : Option Value) {rest : List Frame} (h : S rest) :
      Top S (.closing others error :: rest)
  | hook (a : Activation) {rest : List Frame} (h : S rest) : Top S (.hook :: .script a :: rest)

def ThreadState.Inner : ThreadState → Prop
  | .suspended frames _ _ => Frame.Inner frames
  | _ => True

namespace Frame

theorem Inner.cases {frames : List Frame} (h : Inner frames) : frames = [] ∨ Top Inner frames := by
  cases frames with
  | nil => exact .inl rfl
  | cons f rest =>
    right
    cases f with
    | entry => exact h.elim
    | script a => exact .script a h
    | native c => exact .native c h
    | handling => exact .handling h
    | closing others error => exact .closing others error h
    | hook =>
      obtain ⟨⟨a, below, rfl⟩, h⟩ := h
      exact .hook a h

theorem Top.mono {S S' : List Frame → Prop} {frames : List Frame} (h : Top S frames)
    (hS : ∀ rest, S rest → S' rest) : Top S' frames := by
  cases h with
  | script a h => exact .script a (hS _ h)
  | native c h => exact .native c (hS _ h)
  | handling h => exact .handling (hS _ h)
  | closing others error h => exact .closing others error (hS _ h)
  | hook a h => exact .hook a (hS _ h)

theorem Top.append {above : List Frame} (h : Top Inner above) (base : List Frame) :
    Top (fun frames => ∃ above, frames = above ++ base ∧ Inner above) (above ++ base) := by
  cases h with
  | script a h => exact .script a ⟨_, rfl, h⟩
  | native c h => exact .native c ⟨_, rfl, h⟩
  | handling h => exact .handling ⟨_, rfl, h⟩
  | closing others error h => exact .closing others error ⟨_, rfl, h⟩
  | hook a h => exact .hook a ⟨_, rfl, h⟩

/-- An error is caught above some frames, or goes on among them. -/
theorem unwind_append (s : Store) (base : List Frame) {above : List Frame} (h : Inner above)
    (toClose : List Value) (gone goneNested : Nat) :
    (∃ u rest, unwind s toClose gone goneNested (above ++ base) = some u ∧ u.frames = rest ++ base ∧
      Inner rest) ∨
    ∃ toClose' gone' goneNested', unwind s toClose gone goneNested (above ++ base) =
      unwind s toClose' gone' goneNested' base := by
  induction above generalizing toClose gone goneNested with
  | nil => exact .inr ⟨_, _, _, rfl⟩
  | cons f rest ih =>
    cases f with
    | entry => exact h.elim
    | script a => exact ih h _ _ _
    | handling => exact ih h _ _ _
    | closing others error => exact .inl ⟨_, rest, rfl, rfl, h⟩
    | hook => exact ih h.2 _ _ _
    | native c =>
      rw [List.cons_append, unwind]
      split
      · exact .inl ⟨_, _ :: rest, rfl, rfl, h⟩
      · exact ih h _ _ _

end Frame

theorem Store.callee_isFunction {s : Store} {fuel : Nat} {f g : Value} {args args' : List Value}
    {n : Nat} (h : s.callee fuel f args = some (g, args', n)) :
    (∃ id, g = .closure id) ∨ (∃ fn, g = .native fn) ∨ ∃ name, g = .host (.function name) := by
  induction fuel generalizing f args n with
  | zero => cases h
  | succ fuel ih =>
    unfold callee at h
    split at h
    · cases h
      exact .inl ⟨_, rfl⟩
    · cases h
      exact .inr (.inl ⟨_, rfl⟩)
    · cases h
      exact .inr (.inr ⟨_, rfl⟩)
    · split at h
      · cases h
      · obtain ⟨⟨g', args'', n'⟩, hcallee, he⟩ := Option.map_eq_some_iff.mp h
        cases he
        exact ih hcallee

namespace Machine

/-! ### Threads -/

/-- No thread has put aside frames of the host. -/
def Threads (m : Machine) : Prop := ∀ id, (m.thread id).state.Inner

theorem thread_setState (m : Machine) (id : Nat) (state : ThreadState) (i : Nat) :
    ((m.setState id state).thread i).state = state ∨
      (m.setState id state).thread i = m.thread i := by
  simp only [thread, setState, Array.getD_eq_getD_getElem?, Array.getElem?_modify]
  split
  · cases m.threads[i]? with
    | none => exact .inr rfl
    | some t => exact .inl rfl
  · exact .inr rfl

variable {m m' : Machine}

theorem Threads.setState (h : m.Threads) (id : Nat) {state : ThreadState} (hs : state.Inner) :
    (m.setState id state).Threads := by
  intro i
  rcases thread_setState m id state i with he | he
  · rw [he]
    exact hs
  · rw [he]
    exact h i

/-- What is done about hooks leaves the threads' stacks alone. -/
theorem Threads.modify (h : m.Threads) (id : Nat) {f : Thread → Thread}
    (hf : ∀ t, (f t).state = t.state) (ht : m'.threads = m.threads.modify id f) : m'.Threads := by
  intro i
  have hi := h i
  simp only [thread, ht, Array.getD_eq_getD_getElem?, Array.getElem?_modify] at hi ⊢
  split
  · cases hthread : m.threads[i]? with
    | none => trivial
    | some t =>
      rw [hthread] at hi
      simpa [hf] using hi
  · exact hi

theorem Threads.executed (h : m.Threads) (n : Nat) : (m.executed n).Threads :=
  h.modify m.current (f := fun t => { t with hook := t.hook.map fun h => { h with left := h.left - n } })
    (fun _ => rfl) rfl

theorem Threads.push (h : m.Threads) (f : Value)
    (ht : m'.threads = m.threads.push { state := .fresh f }) : m'.Threads := by
  intro i
  have hi := h i
  simp only [thread, ht, Array.getD_eq_getD_getElem?, Array.getElem?_push] at hi ⊢
  split
  · trivial
  · exact hi

theorem Threads.of_eq (h : m.Threads) (ht : m'.threads = m.threads) : m'.Threads := by
  intro i
  have hi := h i
  simpa only [thread, ht] using hi

/-! ### Stacks with a base -/

/-- The stacks of the threads that wait for one another; the one of the main thread ends with `base`. -/
def Stacked (base : List Frame) : (current : Nat) → List Frame → List Waiting → Prop
  | current, frames, [] => current = 0 ∧ ∃ above, frames = above ++ base ∧ Frame.Inner above
  | _, frames, w :: waiting => Frame.Inner frames ∧
      (∃ c rest k, w.frames = .native c :: rest ∧ c.pending = .resumed k) ∧
      Stacked base w.thread w.frames waiting

variable {base frames rest : List Frame} {current : Nat} {waiting : List Waiting}

theorem Stacked.cons {f : Frame} (h : Stacked base current rest waiting)
    (hf : ∀ above, Frame.Inner above → Frame.Inner (f :: above)) :
    Stacked base current (f :: rest) waiting := by
  cases waiting with
  | nil =>
    obtain ⟨hcurrent, above, rfl, hinner⟩ := h
    exact ⟨hcurrent, f :: above, rfl, hf above hinner⟩
  | cons w waiting => exact ⟨hf rest h.1, h.2⟩

theorem Stacked.script (h : Stacked base current rest waiting) (a : Activation) :
    Stacked base current (.script a :: rest) waiting := h.cons fun _ => id

theorem Stacked.native (h : Stacked base current rest waiting) (c : NativeCall) :
    Stacked base current (.native c :: rest) waiting := h.cons fun _ => id

theorem Stacked.handling (h : Stacked base current rest waiting) :
    Stacked base current (.handling :: rest) waiting := h.cons fun _ => id

theorem Stacked.closing (h : Stacked base current rest waiting) (others : List Value)
    (error : Option Value) : Stacked base current (.closing others error :: rest) waiting :=
  h.cons fun _ => id

theorem Stacked.hook (h : Stacked base current rest waiting) (a : Activation) :
    Stacked base current (.hook :: .script a :: rest) waiting := by
  cases waiting with
  | nil =>
    obtain ⟨hcurrent, above, rfl, hinner⟩ := h
    exact ⟨hcurrent, .hook :: .script a :: above, rfl, ⟨a, above, rfl⟩, hinner⟩
  | cons w waiting => exact ⟨⟨⟨a, rest, rfl⟩, h.1⟩, h.2⟩

/-- The main thread is at the base, or a thread is at its end, or there is a frame above the base. -/
theorem Stacked.cases (h : Stacked base current frames waiting) :
    (waiting = [] ∧ frames = base ∧ current = 0) ∨ (frames = [] ∧ ∃ w rest, waiting = w :: rest) ∨
      Frame.Top (fun rest => Stacked base current rest waiting) frames := by
  cases waiting with
  | nil =>
    obtain ⟨rfl, above, rfl, hinner⟩ := h
    rcases hinner.cases with rfl | htop
    · exact .inl ⟨rfl, rfl, rfl⟩
    · exact .inr (.inr ((htop.append base).mono fun rest hrest => ⟨rfl, hrest⟩))
  | cons w waiting =>
    rcases h.1.cases with rfl | htop
    · exact .inr (.inl ⟨rfl, w, waiting, rfl⟩)
    · exact .inr (.inr (htop.mono fun rest hrest => ⟨hrest, h.2⟩))

/-- Frames that a call is made on: what is innermost does not wait for another thread. -/
def IsBase : List Frame → Prop
  | [] => False
  | .native c :: _ => ∀ k, c.pending ≠ .resumed k
  | _ => True

/-- The machine is above the base, and has on top what it is about to go on with. -/
def Placed (base : List Frame) (m : Machine) : Prop :=
  match m.focus with
  | .script => ∃ a rest, m.frames = .script a :: rest ∧ Stacked base m.current rest m.waiting
  | .act _ | .asking .. =>
    ∃ c rest, m.frames = .native c :: rest ∧ Stacked base m.current rest m.waiting
  | .finished _ => False
  | _ => Stacked base m.current m.frames m.waiting

structure Within (base : List Frame) (m : Machine) : Prop where
  threads : m.Threads
  placed : Placed base m

/-- The call of the host has ended with an error. -/
def Failed (m : Machine) : Prop := ∃ v, m.focus = .finished (.error v)

/-! ### Calls -/

theorem within_raise (hs : Stacked base m.current m.frames m.waiting) (ht : m.Threads) (v : Value) :
    Within base { m with focus := .raise v } := ⟨ht.of_eq rfl, hs⟩

theorem within_enter (hs : Stacked base m.current m.frames m.waiting) (ht : m.Threads) {f g : Value}
    {args args' : List Value} {fuel n : Nat} {s : Store}
    (hf : s.callee fuel g args' = some (f, args, n)) (origin : Option Origin)
    (isTail isNested : Bool) (extra : Nat) :
    Within base (m.enter f args origin isTail isNested extra) := by
  rcases Store.callee_isFunction hf with ⟨id, rfl⟩ | ⟨fn, rfl⟩ | ⟨name, rfl⟩
  · simp only [enter]
    split
    · exact within_raise hs ht _
    · exact ⟨ht.of_eq rfl, _, _, rfl, hs⟩
  · exact ⟨ht.of_eq rfl, _, _, rfl, hs⟩
  · exact ⟨ht.of_eq rfl, _, _, rfl, hs⟩

theorem within_call (hs : Stacked base m.current m.frames m.waiting) (ht : m.Threads) (f : Value)
    (args : List Value) (origin : Option Origin) (isNested : Bool) :
    Within base (m.call f args origin isNested) := by
  unfold call
  split
  · exact within_raise hs ht _
  · split
    · exact within_raise hs ht _
    · rename_i hcallee
      exact within_enter hs ht hcallee origin false isNested _

theorem within_afterStep (hs : Stacked base m.current rest m.waiting) (ht : m.Threads) (step : Step) :
    Within base (m.afterStep rest step) := by
  have htop : ∀ (s : Store) (a : Activation), Stacked base m.current (.script a :: rest) m.waiting ∧
      ({ m with store := s, frames := .script a :: rest } : Machine).Threads :=
    fun s a => ⟨hs.script a, ht.of_eq rfl⟩
  cases step with
  | next s a => exact ⟨ht.of_eq rfl, a, rest, rfl, hs⟩
  | call s a f args origin isNested =>
    exact within_call (m := { m with store := s, frames := .script a :: rest }) (htop s a).1
      (htop s a).2 f args origin isNested
  | tailCall s a f args origin =>
    simp only [afterStep]
    split
    · exact within_raise (m := { m with store := s, frames := .script a :: rest }) (htop s a).1
        (htop s a).2 _
    · rename_i hcallee
      exact within_enter (m := ({ m with store := s } : Machine).dropped (.script a) rest) hs
        (ht.of_eq rfl) hcallee none true _ _
    · rename_i hcallee
      exact within_enter (m := { m with store := s, frames := .script a :: rest }) (htop s a).1
        (htop s a).2 hcallee origin false false _
  | ret s a vs => exact ⟨ht.of_eq rfl, hs⟩
  | fail s a message =>
    exact within_raise (m := { m with store := s, frames := .script a :: rest }) (htop s a).1
      (htop s a).2 _

theorem within_callHook (hs : Stacked base m.current (.hook :: m.frames) m.waiting) (ht : m.Threads)
    (h : Hook) : Within base (m.callHook h) :=
  within_call (m := { m with
    frames := .hook :: m.frames, inHook := true
    threads := m.threads.modify m.current fun t => { t with hook := some { h with left := h.count } } })
    hs (ht.modify m.current (f := fun t => { t with hook := some { h with left := h.count } })
      (fun _ => rfl) rfl) _ _ _ _

theorem within_runScript (limit : Nat) (a : Activation)
    (hs : Stacked base m.current rest m.waiting) (ht : m.Threads) :
    Within base (m.runScript limit a rest) := by
  have hrun : ∀ budget, Within base (m.runFor budget a rest) := fun budget =>
    within_afterStep (m := ({ m with store := {}, frames := [] } : Machine).executed _) hs
      ((ht.of_eq rfl : ({ m with store := {}, frames := [] } : Machine).Threads).executed _) _
  unfold runScript
  split <;> exact hrun _

/-! ### Results and errors -/

/-- The machine goes on above the base, or the call of the host fails. -/
def Stays (base : List Frame) (m : Machine) : Prop := Within base m ∨ m.Failed

theorem within_proceed (c : NativeCall) (hs : Stacked base m.current rest m.waiting) (ht : m.Threads)
    (k : Store → Act) : Within base (m.proceed c rest k) := ⟨ht.of_eq rfl, _, _, rfl, hs⟩

/-- A thread that has come to its end gives its result to the one that waits for it. -/
theorem within_leave (hbase : IsBase base) {w : Waiting} {others : List Waiting}
    (hwaiting : m.waiting = w :: others)
    (hs : (∃ c rest k, w.frames = .native c :: rest ∧ c.pending = .resumed k) ∧
      Stacked base w.thread w.frames others) (ht : m.Threads) (result : Except Value (List Value)) :
    Within base (m.leave result) := by
  obtain ⟨⟨c, rest, k, hframes, hpending⟩, hs⟩ := hs
  rw [hframes] at hs
  rcases hs.cases with ⟨-, he, -⟩ | ⟨he, -⟩ | htop
  · rw [← he] at hbase
    exact absurd hpending (hbase k)
  · cases he
  · simp only [leave, hwaiting, hframes, hpending]
    cases htop with
    | native _ hrest => exact ⟨ht.of_eq rfl, _, _, rfl, hrest⟩

/-- The base is all that is left. -/
def AtBase (base : List Frame) (m : Machine) (rest : List Frame) : Prop :=
  m.waiting = [] ∧ rest = base ∧ m.current = 0

theorem AtBase.stacked (h : AtBase base m rest) : Stacked base m.current rest m.waiting := by
  obtain ⟨hwaiting, hrest, hcurrent⟩ := h
  rw [hwaiting, hrest, hcurrent]
  exact ⟨rfl, [], rfl, trivial⟩

theorem stays_closeNext (hs : Stacked base m.current rest m.waiting) (ht : m.Threads)
    (error : Option Value) (toClose : List Value) :
    Stays base (m.closeNext error rest toClose) ∨ AtBase base m rest ∧ toClose = [] := by
  cases toClose with
  | cons v others =>
    exact .inl (.inl (within_call (m := { m with frames := .closing others error :: rest })
      (hs.closing others error) (ht.of_eq rfl) _ _ _ _))
  | nil =>
    rcases hs.cases with hbase | ⟨rfl, -⟩ | htop
    · exact .inr ⟨hbase, rfl⟩
    · exact .inl (.inr ⟨_, rfl⟩)
    · left
      cases htop with
      | native c hrest =>
        simp only [closeNext]
        split
        · exact .inl (within_proceed _ hrest ht _)
        · exact .inl (within_proceed _ hrest ht _)
        · exact .inl (within_proceed _ hrest ht _)
        · exact .inr ⟨_, rfl⟩
      | _ => exact .inr ⟨_, rfl⟩

/-- Results come back to the base, or the machine goes on above it, or a variable has been closed right
above it. -/
theorem stays_deliver (hbase : IsBase base) (hs : Stacked base m.current m.frames m.waiting)
    (ht : m.Threads) (vs : List Value) :
    Stays base (m.deliver vs) ∨ AtBase base m m.frames ∨
      ∃ error, AtBase base m base ∧ m.deliver vs = m.closeNext error base [] := by
  rcases hs.cases with hat | ⟨hnil, w, others, hwaiting⟩ | htop
  · exact .inr (.inl hat)
  · left
    left
    rw [hwaiting] at hs
    have hthreads : (m.setState m.current (.dead none [])).Threads := ht.setState _ trivial
    unfold deliver
    simp only [hnil]
    exact within_leave hbase (m := m.setState m.current (.dead none [])) hwaiting hs.2 hthreads _
  · unfold deliver
    generalize m.frames = frames at htop
    cases htop with
    | script a hrest =>
      exact .inl (.inl (within_afterStep (m := { m with store := {}, frames := [] }) hrest
        (ht.of_eq rfl) _))
    | native c hrest =>
      left
      left
      dsimp only
      split
      iterate 5 exact within_proceed _ hrest ht _
      exact ⟨ht.of_eq rfl, hrest⟩
    | handling hrest => exact .inl (.inl ⟨ht.of_eq rfl, hrest⟩)
    | hook a hrest => exact .inl (.inl ⟨ht.of_eq rfl, a, _, rfl, hrest⟩)
    | closing others error hrest =>
      rcases stays_closeNext hrest ht error others with h | ⟨⟨hwaiting, rfl, hcurrent⟩, rfl⟩
      · exact .inl h
      · exact .inr (.inr ⟨error, ⟨hwaiting, rfl, hcurrent⟩, rfl⟩)

theorem within_raising (hs : Stacked base m.current m.frames m.waiting) (ht : m.Threads) (v : Value) :
    Within base (m.raise v) := by
  unfold raise
  split
  · split
    · exact ⟨ht.of_eq rfl, hs⟩
    · simp only
      split
      · exact within_raise (m := { m with frames := .handling :: m.frames }) hs.handling
          (ht.of_eq rfl) _
      · rename_i hcallee
        exact within_enter (m := { m with frames := .handling :: m.frames }) hs.handling
          (ht.of_eq rfl) hcallee none false true _
  · exact ⟨ht.of_eq rfl, hs⟩

/-- The machine whose frames an error has passed. -/
def unwound (m : Machine) (u : Frame.Unwound) : Machine :=
  { m with
    frames := u.frames, depth := m.depth - u.gone, nesting := m.nesting - u.goneNested
    inHook := m.inHook && u.frames.any Frame.isHook }

/-- An error as it is handed on. -/
def thrown (v : Value) : Value := if v.isNil then .text "<no error object>" else v

theorem unwind_eq {u : Frame.Unwound} (hu : Frame.unwind m.store [] 0 0 m.frames = some u)
    (v : Value) : m.unwind v = (m.unwound u).closeNext (some (thrown v)) u.frames u.toClose := by
  simp only [unwind, hu]
  rfl

/-- An error that nothing above the base catches comes down to it. -/
def Passes (base : List Frame) (m : Machine) : Prop :=
  AtBase base m base ∧ ∃ toClose gone goneNested, Frame.unwind m.store [] 0 0 m.frames =
    Frame.unwind m.store toClose gone goneNested base

theorem stays_unwind (hbase : IsBase base) (hs : Stacked base m.current m.frames m.waiting)
    (ht : m.Threads) (v : Value) :
    Stays base (m.unwind v) ∨ Passes base m ∨
      ∃ m' e, AtBase base m' base ∧ m'.Threads ∧ m.unwind v = m'.closeNext (some e) base [] := by
  have hcaught : ∀ u, Frame.unwind m.store [] 0 0 m.frames = some u →
      Stacked base m.current u.frames m.waiting →
      Stays base (m.unwind v) ∨
        ∃ m' e, AtBase base m' base ∧ m'.Threads ∧ m.unwind v = m'.closeNext (some e) base [] := by
    intro u hu hstacked
    rw [unwind_eq hu]
    rcases stays_closeNext (m := m.unwound u) hstacked (ht.of_eq rfl) _ u.toClose with
      h | ⟨⟨hwaiting, hframes, hcurrent⟩, hnil⟩
    · exact .inl h
    · rw [hframes, hnil]
      exact .inr ⟨m.unwound u, _, ⟨hwaiting, rfl, hcurrent⟩, ht.of_eq rfl, rfl⟩
  cases hwaiting : m.waiting with
  | nil =>
    rw [hwaiting] at hs hcaught
    obtain ⟨hcurrent, above, hframes, hinner⟩ := hs
    rcases Frame.unwind_append m.store base hinner [] 0 0 with ⟨u, rest, hu, hrest, hinner'⟩ | hpass
    · rw [← hframes] at hu
      rcases hcaught u hu ⟨hcurrent, rest, hrest, hinner'⟩ with h | h
      · exact .inl h
      · exact .inr (.inr h)
    · rw [← hframes] at hpass
      exact .inr (.inl ⟨⟨hwaiting, rfl, hcurrent⟩, hpass⟩)
  | cons w others =>
    rw [hwaiting] at hs hcaught
    rcases Frame.unwind_append m.store [] hs.1 [] 0 0 with ⟨u, rest, hu, hrest, hinner'⟩ | ⟨_, _, _, hpass⟩
    · rw [List.append_nil] at hu hrest
      rcases hcaught u hu ⟨hrest ▸ hinner', hs.2⟩ with h | h
      · exact .inl h
      · exact .inr (.inr h)
    · rw [List.append_nil] at hpass
      have hnone : Frame.unwind m.store [] 0 0 m.frames = none := hpass
      left
      left
      simp only [unwind, hnone]
      exact within_leave hbase (m := m.setState m.current (.dead _ m.frames)) hwaiting hs.2
        (ht.setState _ trivial) _

/-! ### Transitions -/

theorem Stacked.not_atBase (hs : Stacked base m.current rest m.waiting) (f : Frame) :
    ¬ AtBase base m (f :: rest) := by
  rintro ⟨hwaiting, he, -⟩
  rw [hwaiting] at hs
  obtain ⟨-, above, rfl, -⟩ := hs
  have hlength := congrArg List.length he
  simp only [List.length_cons, List.length_append] at hlength
  omega

theorem within_await (hs : Stacked base m.current rest m.waiting) (ht : m.Threads) (s : Store)
    (c : NativeCall) (pending : Pending) :
    Stacked base (m.await s c rest pending).current (m.await s c rest pending).frames
        (m.await s c rest pending).waiting ∧ (m.await s c rest pending).Threads :=
  ⟨hs.native _, ht.of_eq rfl⟩

theorem within_resume (hs : Stacked base m.current rest m.waiting) (ht : m.Threads) (s : Store)
    {c : NativeCall} (hframes : m.frames = .native c :: rest) (id : Nat) (args : List Value)
    (k : Store → Except Value (List Value) → Act) : Within base (m.resume s c rest id args k) := by
  have hrefuse : ∀ message : String,
      Within base { m with focus := .act (k s (.error (.text message))) } :=
    fun message => ⟨ht.of_eq rfl, c, rest, hframes, hs⟩
  have hwaits : (∃ c' rest' k', (m.await s c rest (.resumed k)).frames = .native c' :: rest' ∧
      c'.pending = .resumed k') ∧ Stacked base m.current (m.await s c rest (.resumed k)).frames
        m.waiting := ⟨⟨_, _, k, rfl, rfl⟩, hs.native _⟩
  have hawait : (m.await s c rest (.resumed k)).Threads := ht.of_eq rfl
  unfold resume
  split
  · exact hrefuse _
  · split
    · exact hrefuse _
    · exact hrefuse _
    · rename_i f hstate
      exact ⟨Threads.setState (hawait.of_eq rfl) id trivial, trivial, hwaits⟩
    · rename_i frames depth nesting hstate
      have hinner := ht id
      rw [hstate] at hinner
      exact ⟨Threads.setState (hawait.of_eq rfl) id trivial, hinner, hwaits⟩

theorem within_yield (hbase : IsBase base) (hs : Stacked base m.current rest m.waiting)
    (ht : m.Threads) (s : Store) (c : NativeCall) (hframes : m.frames = .native c :: rest)
    (vs : List Value) (k : Store → List Value → Act) : Within base (m.yield s c rest vs k) := by
  have hall : Stacked base m.current m.frames m.waiting := hframes ▸ hs.native c
  unfold yield
  split
  · rename_i hyieldable
    cases hwaiting : m.waiting with
    | nil =>
      -- The main thread cannot yield.
      rw [hwaiting] at hs
      simp [isYieldable, hs.1] at hyieldable
    | cons w others =>
      have hawait := within_await hs ht s c (.yielded k)
      generalize hm : m.await s c rest (.yielded k) = m' at hawait
      have hwaiting' : m'.waiting = w :: others := by
        rw [← hm]
        exact hwaiting
      rw [hwaiting'] at hawait
      simp only [hwaiting']
      exact within_leave hbase (m := m'.setState m'.current (.suspended m'.frames _ _)) hwaiting'
        hawait.1.2 (hawait.2.setState _ hawait.1.1) _
  · simp only
    split <;> exact within_raise (m := { m with store := s }) hall (ht.of_eq rfl) _

theorem stays_close (hs : Stacked base m.current rest m.waiting) (ht : m.Threads) (s : Store)
    {c : NativeCall} (hframes : m.frames = .native c :: rest) (id : Nat)
    (k : Store → Except Value Unit → Act) : Stays base (m.close s c rest id k) := by
  have hdead : (m.setState id (.dead none [])).Threads := ht.setState _ trivial
  have hclose : ∀ error toClose, Stays base
      (((m.setState id (.dead none [])).await s c rest (.closed k)).closeNext error
        ((m.setState id (.dead none [])).await s c rest (.closed k)).frames toClose) := by
    intro error toClose
    have hawait := within_await (m := m.setState id (.dead none [])) hs hdead s c (.closed k)
    rcases stays_closeNext hawait.1 hawait.2 error toClose with h | ⟨hat, -⟩
    · exact h
    · exact absurd hat (Stacked.not_atBase
        (m := (m.setState id (.dead none [])).await s c rest (.closed k)) hs _)
  unfold close
  dsimp only
  split
  · exact .inl ⟨ht.of_eq rfl, c, rest, hframes, hs⟩
  · exact .inl ⟨hdead.of_eq rfl, c, rest, hframes, hs⟩
  · exact hclose _ _
  · exact hclose _ _

theorem stays_act (hbase : IsBase base) (hs : Stacked base m.current rest m.waiting) (ht : m.Threads)
    {c : NativeCall} (hframes : m.frames = .native c :: rest) (a : Act) :
    Stays base (m.act c rest a) := by
  have hall : Stacked base m.current m.frames m.waiting := hframes ▸ hs.native c
  have hgoes : ∀ a, Within base { m with focus := .act a } :=
    fun a => ⟨ht.of_eq rfl, c, rest, hframes, hs⟩
  cases a with
  | done s vs => exact .inl ⟨ht.of_eq rfl, hs⟩
  | raise s v => exact .inl ⟨ht.of_eq rfl, hall⟩
  | fail s message => exact .inl ⟨ht.of_eq rfl, hall⟩
  | badArgument s number message => exact .inl ⟨ht.of_eq rfl, hall⟩
  | call s f args k => exact .inl ⟨ht.of_eq rfl, hs.native _⟩
  | guarded s f args handler k => exact .inl ⟨ht.of_eq rfl, hs.native _⟩
  | newThread s f k => exact .inl ⟨ht.push f rfl, c, rest, hframes, hs⟩
  | resume s id args k => exact .inl (within_resume hs ht s hframes id args k)
  | yield s vs k => exact .inl (within_yield hbase hs ht s c hframes vs k)
  | close s id k => exact stays_close hs ht s hframes id k
  | setHook s id hook k =>
    exact .inl ⟨ht.modify (id.getD m.current) (f := fun t => { t with
      hook := hook.map fun p => { function := p.1, count := p.2, left := p.2 } })
      (fun _ => rfl) rfl, c, rest, hframes, hs⟩
  | _ => exact .inl (hgoes _)

/-- **What a call does to the frames below it.** A transition goes on above the base or fails the call,
unless results come back to the base, an error comes down to it, or the last variable above it has been
closed. -/
theorem Within.tick (hbase : IsBase base) (h : Within base m) :
    Stays base m.tick ∨ (AtBase base m m.frames ∧ ∃ vs, m.focus = .deliver vs) ∨
      (Passes base m ∧ ∃ v, m.focus = .unwind v) ∨
      ∃ m' error, AtBase base m' base ∧ m'.Threads ∧ m.tick = m'.closeNext error base [] := by
  obtain ⟨ht, hplaced⟩ := h
  unfold Machine.tick advanceBy
  cases hf : m.focus with
  | script =>
    simp only [Placed, hf] at hplaced
    obtain ⟨a, rest, hframes, hs⟩ := hplaced
    left
    left
    simp only [hframes]
    split
    · split
      · exact within_callHook (by rw [hframes]; exact hs.hook a) ht _
      · exact within_runScript 1 a hs ht
    · exact within_runScript 1 a hs ht
  | act a =>
    simp only [Placed, hf] at hplaced
    obtain ⟨c, rest, hframes, hs⟩ := hplaced
    simp only [hframes]
    exact .inl (stays_act hbase hs ht hframes a)
  | call f args origin isNested =>
    simp only [Placed, hf] at hplaced
    exact .inl (.inl (within_call hplaced ht f args origin isNested))
  | deliver vs =>
    simp only [Placed, hf] at hplaced
    rcases stays_deliver hbase hplaced ht vs with h | hat | ⟨error, hat, he⟩
    · exact .inl h
    · exact .inr (.inl ⟨hat, vs, rfl⟩)
    · exact .inr (.inr (.inr ⟨m, error, hat, ht, he⟩))
  | raise v =>
    simp only [Placed, hf] at hplaced
    exact .inl (.inl (within_raising hplaced ht v))
  | unwind v =>
    simp only [Placed, hf] at hplaced
    rcases stays_unwind hbase hplaced ht v with h | hpass | ⟨m', e, hat, ht', he⟩
    · exact .inl h
    · exact .inr (.inr (.inl ⟨hpass, v, rfl⟩))
    · exact .inr (.inr (.inr ⟨m', some e, hat, ht', he⟩))
  | asking name args => exact .inl (.inl ⟨ht, hplaced⟩)
  | finished r =>
    simp only [Placed, hf] at hplaced

/-- The host has answered the question of the function on top. -/
theorem Within.answer (h : Within base m) {name : String} {args : List Value}
    (hf : m.focus = .asking name args) (vs : List Value) : Within base (m.answer vs) := by
  have hplaced := h.placed
  simp only [Placed, hf] at hplaced
  obtain ⟨c, rest, hframes, hs⟩ := hplaced
  simp only [Machine.answer, hframes]
  exact ⟨h.threads.of_eq rfl, hs⟩

theorem Within.refuse (h : Within base m) {name : String} {args : List Value}
    (hf : m.focus = .asking name args) (v : Value) : Within base (m.refuse v) := by
  have hplaced := h.placed
  simp only [Placed, hf] at hplaced
  obtain ⟨c, rest, hframes, hs⟩ := hplaced
  exact within_raise (hframes ▸ hs.native c) h.threads v

end Machine

end KernelConfig.Script
