import Mathlib.Data.List.Nodup
import Mathlib.Data.List.Perm.Subperm
import Mathlib.Data.List.Pairwise
import Mathlib.Data.String.Basic
import KernelConfig.Namespace.Plan

/-!
The binding plan: one binding for every eligible name, in order. Which globals it generates, and when
one global is generated for two symbols.
-/

set_option autoImplicit false

namespace KernelConfig.Namespace

/-! ### Sorted names -/

theorem mem_insertName {name x : String} {names : List String} :
    x ∈ insertName name names ↔ x = name ∨ x ∈ names := by
  induction names with
  | nil => simp [insertName]
  | cons other rest ih =>
    simp only [insertName]
    split
    · simp
    · split
      · rename_i h
        subst h
        simp
      · simp only [List.mem_cons, ih]
        tauto

theorem pairwise_insertName {name : String} {names : List String}
    (h : names.Pairwise (· < ·)) : (insertName name names).Pairwise (· < ·) := by
  induction names with
  | nil => simp [insertName]
  | cons other rest ih =>
    simp only [List.pairwise_cons] at h
    simp only [insertName]
    split
    · rename_i hlt
      simp only [List.pairwise_cons, List.mem_cons, forall_eq_or_imp]
      exact ⟨⟨hlt, fun x hx => lt_trans hlt (h.1 x hx)⟩, h⟩
    · rename_i hlt
      split
      · exact List.pairwise_cons.mpr h
      · rename_i hne
        refine List.pairwise_cons.mpr ⟨fun x hx => ?_, ih h.2⟩
        rcases mem_insertName.mp hx with rfl | hx
        · exact lt_of_le_of_ne (not_lt.mp hlt) (Ne.symm hne)
        · exact h.1 x hx

theorem mem_sortNames {x : String} {names : List String} : x ∈ sortNames names ↔ x ∈ names := by
  induction names with
  | nil => simp [sortNames]
  | cons name rest ih =>
    show x ∈ insertName name (sortNames rest) ↔ _
    rw [mem_insertName, ih, List.mem_cons]

theorem pairwise_sortNames (names : List String) : (sortNames names).Pairwise (· < ·) := by
  induction names with
  | nil => simp [sortNames]
  | cons name rest ih => exact pairwise_insertName ih

/-- The names that are bound, in order. -/
def eligibleNames (names : List String) : List String := (sortNames names).filter isEligible

theorem mem_eligibleNames {x : String} {names : List String} :
    x ∈ eligibleNames names ↔ x ∈ names ∧ isEligible x = true := by
  rw [eligibleNames, List.mem_filter, mem_sortNames]

theorem nodup_eligibleNames (names : List String) : (eligibleNames names).Nodup :=
  ((pairwise_sortNames names).imp fun h => ne_of_lt h).filter _

/-! ### Bindings -/

/-- The binding of a name whose identifiers can be used. -/
def bindingOf (lead name : String) : Binding :=
  ⟨name, lead ++ name, if startsWithDigit name then none else some name⟩

theorem validate_eq_ok {name x : String} (h : validate name = .ok x) :
    x = name ∧ isIdentifier name = true ∧ name ∉ keywords ∧ name ∉ reserved := by
  unfold validate at h
  split at h
  · cases h
  · split at h
    · cases h
    · split at h
      · cases h
      · cases h
        simp_all

theorem bind_eq_ok {lead name : String} {b : Binding} (h : bind lead name = .ok b) :
    b = bindingOf lead name ∧ ∀ id ∈ b.identifiers, isIdentifier id = true ∧ id ∉ reserved := by
  unfold bind at h
  split at h
  · cases h
  · rename_i long hlong
    obtain ⟨rfl, hid, -, hres⟩ := validate_eq_ok hlong
    split at h
    · rename_i hdigit
      cases h
      simp [bindingOf, hdigit, Binding.identifiers, hid, hres]
    · rename_i hdigit
      split at h
      · cases h
      · rename_i bare hbare
        obtain ⟨rfl, hid', -, hres'⟩ := validate_eq_ok hbare
        cases h
        simp [bindingOf, hdigit, Binding.identifiers, hid, hres, hid', hres']

theorem bindAll_eq_ok {lead : String} {names : List String} {bs : List Binding}
    (h : bindAll lead names = .ok bs) :
    bs = names.map (bindingOf lead) ∧
      ∀ b ∈ bs, ∀ id ∈ b.identifiers, isIdentifier id = true ∧ id ∉ reserved := by
  induction names generalizing bs with
  | nil => cases h; simp
  | cons name rest ih =>
    unfold bindAll at h
    split at h
    · cases h
    · rename_i b hb
      split at h
      · cases h
      · rename_i bs' hbs
        cases h
        obtain ⟨rfl, hid⟩ := bind_eq_ok hb
        obtain ⟨rfl, hids⟩ := ih hbs
        simp only [List.map_cons, List.mem_cons, forall_eq_or_imp, true_and]
        exact ⟨hid, hids⟩

/-- A plan has the bindings of the eligible names, and all its identifiers can be used. -/
theorem plan_eq_ok {lead : String} {names : List String} {bs : List Binding}
    (h : plan lead names = .ok bs) :
    bs = (eligibleNames names).map (bindingOf lead) ∧
      ∀ b ∈ bs, ∀ id ∈ b.identifiers, isIdentifier id = true ∧ id ∉ reserved :=
  bindAll_eq_ok h

theorem length_plan_le {lead : String} {names : List String} {bs : List Binding}
    (h : plan lead names = .ok bs) : bs.length ≤ names.length := by
  obtain ⟨rfl, -⟩ := plan_eq_ok h
  rw [List.length_map]
  exact ((nodup_eligibleNames names).subperm fun x hx => (mem_eligibleNames.mp hx).1).length_le

theorem mem_identifiers_bindingOf {lead name id : String} :
    id ∈ (bindingOf lead name).identifiers ↔
      id = lead ++ name ∨ id = name ∧ startsWithDigit name = false := by
  cases h : startsWithDigit name <;> simp [bindingOf, Binding.identifiers, h]

/-! ### Ambiguity -/

theorem append_left_cancel {lead a b : String} (h : lead ++ a = lead ++ b) : a = b := by
  have hl : lead.toList ++ a.toList = lead.toList ++ b.toList := by
    rw [← String.toList_append, ← String.toList_append, h]
  exact String.toList_inj.mp (List.append_cancel_left hl)

theorem append_ne_self {lead : String} (hlead : isIdentifier lead = true) (name : String) :
    lead ++ name ≠ name := by
  intro h
  have hl : lead.toList ++ name.toList = name.toList := by rw [← String.toList_append, h]
  have hnil : lead.toList = [] := by simpa using hl
  simp [isIdentifier, hnil] at hlead

/-- What begins with a lead does not begin with a digit. -/
theorem startsWithDigit_append {lead : String} (hlead : isIdentifier lead = true) (name : String) :
    startsWithDigit (lead ++ name) = false := by
  cases hl : lead.toList with
  | nil => simp [isIdentifier, hl] at hlead
  | cons c rest =>
    simp only [isIdentifier, hl, Bool.and_eq_true, Bool.not_eq_true'] at hlead
    simp [startsWithDigit, String.toList_append, hl, hlead.1.2]

theorem isEligible_append {name : String} (lead : String) (h : isEligible name = true) :
    isEligible (lead ++ name) = true := by
  simp only [isEligible, String.toList_append, List.any_append, Bool.or_eq_true]
  exact .inr h

theorem nodup_identifiers_bindingOf {lead : String} (hlead : isIdentifier lead = true)
    (name : String) : (bindingOf lead name).identifiers.Nodup := by
  cases h : startsWithDigit name <;>
    simp [bindingOf, Binding.identifiers, h, append_ne_self hlead]

/-- Two names have a global in common if one is the other behind the lead. -/
theorem disjoint_identifiers_iff {lead a b : String} (hlead : isIdentifier lead = true)
    (hne : a ≠ b) :
    (bindingOf lead a).identifiers.Disjoint (bindingOf lead b).identifiers ↔
      b ≠ lead ++ a ∧ a ≠ lead ++ b := by
  constructor
  · intro h
    refine ⟨?_, ?_⟩
    · rintro rfl
      exact h (a := lead ++ a) (mem_identifiers_bindingOf.mpr (.inl rfl))
        (mem_identifiers_bindingOf.mpr (.inr ⟨rfl, startsWithDigit_append hlead a⟩))
    · rintro rfl
      exact h (a := lead ++ b)
        (mem_identifiers_bindingOf.mpr (.inr ⟨rfl, startsWithDigit_append hlead b⟩))
        (mem_identifiers_bindingOf.mpr (.inl rfl))
  · rintro ⟨hba, hab⟩ id ha hb
    rcases mem_identifiers_bindingOf.mp ha with rfl | ⟨rfl, -⟩
    · rcases mem_identifiers_bindingOf.mp hb with h | ⟨h, -⟩
      · exact hne (append_left_cancel h)
      · exact hba h.symm
    · rcases mem_identifiers_bindingOf.mp hb with h | ⟨h, -⟩
      · exact hab h
      · exact hne h

/-- No global is generated twice exactly if no bound name is another one behind the lead. -/
theorem nodup_identifiers_iff {lead : String} {names : List String} {bs : List Binding}
    (hlead : isIdentifier lead = true) (hplan : plan lead names = .ok bs) :
    (bs.flatMap Binding.identifiers).Nodup ↔
      ∀ a ∈ names, isEligible a = true → lead ++ a ∉ names := by
  obtain ⟨rfl, -⟩ := plan_eq_ok hplan
  rw [List.flatMap_map, List.nodup_flatMap]
  constructor
  · rintro ⟨-, hpair⟩ a ha hel hmem
    have hsymm : Std.Symm (Function.onFun List.Disjoint fun a => (bindingOf lead a).identifiers) :=
      ⟨fun _ _ h _ hy hx => h hx hy⟩
    have hdisjoint := hpair.forall (mem_eligibleNames.mpr ⟨ha, hel⟩)
      (mem_eligibleNames.mpr ⟨hmem, isEligible_append lead hel⟩) (append_ne_self hlead a).symm
    exact ((disjoint_identifiers_iff hlead (append_ne_self hlead a).symm).mp hdisjoint).1 rfl
  · intro h
    refine ⟨fun name _ => nodup_identifiers_bindingOf hlead name, ?_⟩
    refine (nodup_eligibleNames names).pairwise_of_forall_ne fun a ha b hb hne => ?_
    rw [mem_eligibleNames] at ha hb
    refine (disjoint_identifiers_iff hlead hne).mpr ⟨?_, ?_⟩
    · rintro rfl
      exact h a ha.1 ha.2 hb.1
    · rintro rfl
      exact h b hb.1 hb.2 ha.1

end KernelConfig.Namespace
