import KernelConfig.Proofs.Apply.Served
import KernelConfig.Proofs.Script.Returns

/-!
Steps of a call: one transition or one answer at a time, from where the host has called to where the
call ends. There is one way from a place, so whatever a call comes to lies on it.
-/

set_option autoImplicit false

namespace KernelConfig.Context

open Script

/-- What a call does next: a transition of its own, or it takes the answer to what it has asked. -/
inductive Next (w : Surroundings) (c : Context) (m : Machine) : Context → Machine → Prop
  | ticked (hm : m.focus.isBusy = true) : Next w c m c m.tick
  | asked {name : String} {arguments : List Value} (hm : m.focus = .asking name arguments) :
      Next w c m (answer w c m name arguments).2 (answer w c m name arguments).1

/-- What a call does, as long as a condition holds. -/
inductive Steps (w : Surroundings) (K : Context → Machine → Prop) :
    Context → Machine → Context → Machine → Prop
  | refl (c : Context) (m : Machine) : Steps w K c m c m
  | next {c c' c'' : Context} {m m' m'' : Machine} (hk : K c m) (hnext : Next w c m c' m')
      (hsteps : Steps w K c' m' c'' m'') : Steps w K c m c'' m''

/-- On any condition. -/
def Always (_ : Context) (_ : Machine) : Prop := True

section

variable {w : Surroundings} {K K' : Context → Machine → Prop} {c c' c'' c₁ c₂ : Context}
  {m m' m'' m₁ m₂ : Machine} {vs : List Value} {r : Except Value (List Value)}

theorem Next.unique (h₁ : Next w c m c₁ m₁) (h₂ : Next w c m c₂ m₂) : c₁ = c₂ ∧ m₁ = m₂ := by
  cases h₁ with
  | ticked hm =>
    cases h₂ with
    | ticked => exact ⟨rfl, rfl⟩
    | asked hf => simp [hf, Focus.isBusy] at hm
  | asked hf =>
    cases h₂ with
    | ticked hm => simp [hf, Focus.isBusy] at hm
    | asked hf' =>
      cases hf.symm.trans hf'
      exact ⟨rfl, rfl⟩

theorem not_next_of_finished (hend : m.focus = .finished r) : ¬ Next w c m c' m' := by
  intro h
  cases h with
  | ticked hm => simp [hend, Focus.isBusy] at hm
  | asked hf => cases hend.symm.trans hf

theorem Steps.trans (h : Steps w K c m c' m') (h' : Steps w K c' m' c'' m'') :
    Steps w K c m c'' m'' := by
  induction h with
  | refl => exact h'
  | next hk hnext _ ih => exact .next hk hnext (ih h')

theorem Steps.mono (h : Steps w K c m c' m') (hK : ∀ c m, K c m → K' c m) :
    Steps w K' c m c' m' := by
  induction h with
  | refl => exact .refl _ _
  | next hk hnext _ ih => exact .next (hK _ _ hk) hnext ih

/-- What steps keep. -/
theorem Steps.keeps {I : Context → Machine → Prop}
    (hI : ∀ {c m c' m'}, I c m → Next w c m c' m' → I c' m') (h : Steps w K c m c' m')
    (hm : I c m) : I c' m' := by
  induction h with
  | refl => exact hm
  | next _ hnext _ ih => exact ih (hI hm hnext)

theorem Steps.after (hnext : Next w c m c₁ m₁) (hs : Steps w K c m c' m')
    (hend : m'.focus = .finished r) : Steps w K c₁ m₁ c' m' := by
  cases hs with
  | refl => exact absurd hnext (not_next_of_finished hend)
  | next _ hnext' hs =>
    obtain ⟨rfl, rfl⟩ := hnext.unique hnext'
    exact hs

/-- A place that a call comes to lies on its way to its end. -/
theorem Steps.rest (h : Steps w K c m c₁ m₁) (hs : Steps w K' c m c' m')
    (hend : m'.focus = .finished r) : Steps w K' c₁ m₁ c' m' := by
  induction h with
  | refl => exact hs
  | next _ hnext _ ih => exact ih (hs.after hnext hend)

/-- The first place where a condition does not hold is the only one. -/
theorem Steps.first (h₁ : Steps w K c m c₁ m₁) (h₂ : Steps w K c m c₂ m₂) (hk₁ : ¬ K c₁ m₁)
    (hk₂ : ¬ K c₂ m₂) : c₁ = c₂ ∧ m₁ = m₂ := by
  induction h₁ with
  | refl =>
    cases h₂ with
    | refl => exact ⟨rfl, rfl⟩
    | next hk => exact absurd hk hk₁
  | next hk hnext _ ih =>
    cases h₂ with
    | refl => exact absurd hk hk₂
    | next _ hnext' h₂ =>
      obtain ⟨rfl, rfl⟩ := hnext.unique hnext'
      exact ih h₂ hk₁

/-! ### Calls that are served -/

theorem steps_iff_tick (hend : m'.focus = .finished r) (hm : m.focus.isBusy = true) :
    Steps w Always c m c' m' ↔ Steps w Always c m.tick c' m' :=
  ⟨fun h => h.after (.ticked hm) hend, .next trivial (.ticked hm)⟩

/-- A call that leads somewhere comes there, if it ends well. -/
theorem Leads.steps {L : Context → Prop} {G : Context → Machine → Prop} (h : Leads w L G c m)
    (hs : Steps w Always c m c' m') (hend : m'.focus = .finished (.ok vs)) :
    ∃ c₁ m₁, L c₁ ∧ G c₁ m₁ ∧ Steps w Always c m c₁ m₁ := by
  induction h with
  | reached hc hg => exact ⟨_, _, hc, hg, .refl _ _⟩
  | failed _ hm _ =>
    cases hs with
    | refl => cases hm.symm.trans hend
    | next _ hnext => exact absurd hnext (not_next_of_finished hm)
  | asked _ hm _ ih =>
    obtain ⟨c₁, m₁, hc, hg, hto⟩ := ih (hs.after (.asked hm) hend)
    exact ⟨c₁, m₁, hc, hg, .next trivial (.asked hm) hto⟩
  | ticked _ hm _ ih =>
    obtain ⟨c₁, m₁, hc, hg, hto⟩ := ih ((steps_iff_tick hend hm).mp hs)
    exact ⟨c₁, m₁, hc, hg, .next trivial (.ticked hm) hto⟩

theorem not_steps_of_failed (h : m.Failed) (hend : m'.focus = .finished (.ok vs)) :
    ¬ Steps w K c m c' m' := by
  obtain ⟨v, hv⟩ := h
  intro hs
  cases hs with
  | refl => cases hv.symm.trans hend
  | next _ hnext => exact not_next_of_finished hv hnext

/-- An answer leaves the machine above the base. -/
theorem within_answer {base : List Frame} (h : m.Within base) {name : String}
    {arguments : List Value} (hf : m.focus = .asking name arguments) :
    Machine.Within base (answer w c m name arguments).1 := by
  have hticks : ∀ ticks, Machine.Within base { m with ticks } := fun ticks => ⟨h.threads, h.placed⟩
  have hanswer : ∀ ticks vs, Machine.Within base (Machine.answer { m with ticks } vs) :=
    fun ticks => (hticks ticks).answer hf
  have hrefuse : ∀ ticks v, Machine.Within base (Machine.refuse { m with ticks } v) :=
    fun ticks => (hticks ticks).refuse hf
  unfold answer
  dsimp only
  split
  · exact hanswer _ _
  · exact hrefuse _ _

/-- A call that ends well comes back from a guarded call, if it has come into one. -/
theorem Steps.leave_guarded {native : NativeCall} {rest : List Frame} {handler : Option Value}
    {k : Store → Except Value (List Value) → Act} (hpending : native.pending = .guarded handler k)
    (h : m.Within (.native native :: rest)) (hs : Steps w Always c m c' m')
    (hend : m'.focus = .finished (.ok vs)) :
    ∃ c₁ m₁, Steps w (fun _ m => m.Within (.native native :: rest)) c m c₁ m₁ ∧
      (∃ s r, m₁.focus = .act (k s r)) ∧
      m₁.Main (.native { native with pending := .running } :: rest) := by
  induction hs with
  | refl =>
    exact absurd hend h.not_finished
  | next _ hnext hs ih =>
    cases hnext with
    | ticked hm =>
      rcases h.tick_guarded hpending with (hwithin | hfailed) | ⟨hact, hmain⟩
      · obtain ⟨c₁, m₁, hto, hthere⟩ := ih hwithin hend
        exact ⟨c₁, m₁, .next h (.ticked hm) hto, hthere⟩
      · exact absurd hs (not_steps_of_failed hfailed hend)
      · exact ⟨_, _, .next h (.ticked hm) (.refl _ _), hact, hmain⟩
    | asked hf =>
      obtain ⟨c₁, m₁, hto, hthere⟩ := ih (within_answer h hf) hend
      exact ⟨c₁, m₁, .next h (.asked hf) hto, hthere⟩

/-! ### The function that the host has called -/

section

variable {P W : Activation → Prop} {D : List Value → Prop}

theorem on_answer (h : m.On P W D) {name : String} {arguments : List Value}
    (hf : m.focus = .asking name arguments) :
    Machine.On P W D (answer w c m name arguments).1 := by
  cases h with
  | running _ hf' => cases hf.symm.trans hf'
  | hooked h ha => exact .hooked (within_answer h hf) ha
  | waiting h ha => exact .waiting (within_answer h hf) ha
  | replying _ hf' => cases hf.symm.trans hf'
  | replied hf' => cases hf.symm.trans hf'
  | sunk h =>
    refine .sunk ?_
    cases h with
    | raising _ hf' => cases hf.symm.trans hf'
    | handling h => exact .handling (within_answer h hf)
    | unwinding _ hf' => cases hf.symm.trans hf'
    | doomed h =>
      obtain ⟨others, e, h⟩ := h
      exact .doomed ⟨others, e, within_answer h hf⟩
    | failed h =>
      obtain ⟨v, hv⟩ := h
      cases hf.symm.trans hv

/-- Where the function has taken its course to, once the host has its results. -/
theorem on_finished (h : m.On P W D) (hend : m.focus = .finished (.ok vs)) : D vs := by
  cases h with
  | running _ hf => cases hend.symm.trans hf
  | hooked h => exact absurd hend h.not_finished
  | waiting h => exact absurd hend h.not_finished
  | replying _ hf => cases hend.symm.trans hf
  | replied hf hd =>
    cases hend.symm.trans hf
    exact hd
  | sunk h => exact absurd hend h.not_ok

theorem Steps.on (hc : Machine.Course P W D) (h : m.On P W D) (hs : Steps w K c m c' m') :
    m'.On P W D :=
  hs.keeps (I := fun _ m => m.On P W D) (fun h hnext => by
    cases hnext with
    | ticked => exact h.tick hc
    | asked hf => exact on_answer h hf) h

end

end

end KernelConfig.Context
