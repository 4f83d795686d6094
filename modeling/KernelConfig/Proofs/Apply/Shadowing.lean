import KernelConfig.Proofs.Apply.Preparation
import KernelConfig.Proofs.Namespace.Clashes

/-!
Shadowing: the globals of a plan are new ones. None of them is a word of the language, or a global that
a script finds without them.
-/

set_option autoImplicit false

namespace KernelConfig.Context

open Script Namespace

/-- An identifier that a plan may generate, in a language in which nothing has it as its name. -/
structure IsNew (id : String) : Prop where
  identifier : isIdentifier id = true
  capital : isEligible id = true
  noKeyword : id ∉ keywords
  notReserved : id ∉ reserved
  /-- The libraries and the prelude leave no global of this name. -/
  unset : ∀ (w : Surroundings) (c c' : Context), Fresh c → loadPrelude w c = (.ok (), c') →
    ∃ m, c'.machine = some m ∧ m.store.getText m.store.globals id = .nil

/-- What is taken out of the globals again is written without capitals. -/
theorem ne_taken {id : String} (hel : isEligible id = true) :
    ∀ taken ∈ hookGlobals, bytes id ≠ bytes taken.1 := by
  have hplain : ∀ taken ∈ hookGlobals, isEligible taken.1 = false := by decide
  intro taken htaken heq
  obtain rfl : id = taken.1 := Text.utf8_injective heq
  rw [hplain taken htaken] at hel
  cases hel

theorem unset_of_loadPrelude {id : String} (hel : isEligible id = true) (hreserved : id ∉ reserved)
    {w : Surroundings} {c c' : Context} (hfresh : Fresh c) (hload : loadPrelude w c = (.ok (), c')) :
    ∃ m, c'.machine = some m ∧ m.store.getText m.store.globals id = .nil := by
  -- The prelude leaves no such global, and taking its hooks out of the globals gives it no value either.
  have hleft : ∀ left s a, Context.executed Prelude.chunk = (left, .ret s a []) →
      ∀ e ∈ [(id, Value.nil)], s.getText places.globals e.1 = e.2 := fun left s a hexecuted =>
    List.forall_mem_singleton.mpr (getText_globals_eq_nil hexecuted hel hreserved)
  have hprepares : Prepares Fresh (loadPrelude w) fun _ => Stands (Offers [(id, Value.nil)]) :=
    prepares_loadPrelude_offering hleft (List.forall_mem_singleton.mpr (ne_taken hel))
  have hstands := (hprepares.attains hfresh).of_ok (congrArg Prod.fst hload)
  rw [congrArg Prod.snd hload] at hstands
  obtain ⟨m, hm, hready, hglobals⟩ := hstands.machine
  refine ⟨m, hm, ?_⟩
  rw [hready.prepared.globals]
  exact hglobals (id, .nil) (List.mem_singleton.mpr rfl)

theorem isNew_of_usable {id : String} (h : IsUsable id) (hel : isEligible id = true) : IsNew id :=
  ⟨h.1, hel, not_mem_keywords hel, h.2, fun _ _ _ => unset_of_loadPrelude hel h.2⟩

/-- The bindings of a plan: one for each name with a capital, in increasing order, under globals that
are new. -/
structure BindsNew (lead : String) (names : List String) (bs : List Binding) : Prop where
  increasing : (bs.map (·.symbol)).Pairwise (· < ·)
  symbols : ∀ name, name ∈ bs.map (·.symbol) ↔ name ∈ names ∧ isEligible name = true
  long : ∀ b ∈ bs, b.long = lead ++ b.symbol
  bare : ∀ b ∈ bs, b.bare = if startsWithDigit b.symbol then none else some b.symbol
  identifiers : ∀ b ∈ bs, ∀ id ∈ b.identifiers, IsNew id

theorem bindsNew_of_plan {lead : String} {names : List String} {bs : List Binding}
    (h : plan lead names = .ok bs) : BindsNew lead names bs := by
  obtain ⟨rfl, husable⟩ := plan_eq_ok h
  have hsymbols : ((eligibleNames names).map (bindingOf lead)).map (·.symbol) = eligibleNames names := by
    rw [List.map_map]
    exact List.map_id _
  have hof : ∀ b ∈ (eligibleNames names).map (bindingOf lead), ∃ name ∈ eligibleNames names,
      bindingOf lead name = b := fun b hb => List.mem_map.mp hb
  constructor
  · rw [hsymbols]
    exact (pairwise_sortNames names).filter _
  · intro name
    rw [hsymbols, mem_eligibleNames]
  · intro b hb
    obtain ⟨name, -, rfl⟩ := hof b hb
    rfl
  · intro b hb
    obtain ⟨name, -, rfl⟩ := hof b hb
    rfl
  · intro b hb id hid
    refine isNew_of_usable (husable b hb id hid) ?_
    obtain ⟨name, hname, rfl⟩ := hof b hb
    exact isEligible_of_mem_identifiers (mem_eligibleNames.mp hname).2 hid

/-- A plan depends on which names there are, and not on their order or repetitions. It is made exactly if
each name with a capital has globals that can be used; else the least one that has not is reported, with
what is wrong with the first of its globals. Its globals are new: no plan shadows the language. -/
theorem plan_shadows_nothing (lead : String) (names : List String) :
    (∀ names', (∀ x, x ∈ names' ↔ x ∈ names) → plan lead names' = plan lead names) ∧
    ((∃ bs, plan lead names = .ok bs) ↔ ∀ name ∈ names, isEligible name = true →
      IsUsable (lead ++ name) ∧ (startsWithDigit name = false → IsUsable name)) ∧
    (∀ f, plan lead names = .error f → ∃ name ∈ names, isEligible name = true ∧ Offends lead name f ∧
      ∀ other ∈ names, isEligible other = true → other < name → ∀ f', ¬ Offends lead other f') ∧
    ∀ bs, plan lead names = .ok bs → BindsNew lead names bs := by
  refine ⟨fun names' h => plan_congr lead h, ?_, fun f hf => ?_, fun bs => bindsNew_of_plan⟩
  · rw [plan_isOk_iff]
    exact forall₃_congr fun name _ _ => isBindable_iff
  · obtain ⟨name, hname, hel, hoffends, hless⟩ := least_of_plan_eq_error hf
    exact ⟨name, hname, hel, hoffends, fun other hother hel' hlt f' hf' =>
      hf'.not_bindable (hless other hother hel' hlt)⟩

/-- Names of all kinds, one of them twice. -/
theorem plan_shadows_nothing_mixed :
    plan "CONFIG_" ["X86", "2FA", "low-er", "X86"] =
        .ok [⟨"2FA", "CONFIG_2FA", none⟩, ⟨"X86", "CONFIG_X86", some "X86"⟩] ∧
      IsNew "CONFIG_2FA" ∧ IsNew "CONFIG_X86" ∧ IsNew "X86" := by
  have hplan : plan "CONFIG_" ["X86", "2FA", "low-er", "X86"] =
      .ok [⟨"2FA", "CONFIG_2FA", none⟩, ⟨"X86", "CONFIG_X86", some "X86"⟩] := by decide +kernel
  have hnew := ((plan_shadows_nothing "CONFIG_" _).2.2.2 _ hplan).identifiers
  simp only [List.forall_mem_cons, Binding.identifiers, Option.toList, List.not_mem_nil, false_implies,
    implies_true, and_true] at hnew
  exact ⟨hplan, hnew⟩

end KernelConfig.Context
