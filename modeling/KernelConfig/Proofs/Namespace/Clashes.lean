import Mathlib.Data.List.Sort
import KernelConfig.Proofs.Namespace.Plan

/-!
Clashes: a plan is refused for the least name one of whose globals cannot be used, and only for such a
name; which names are given, and not how, decides it.
-/

set_option autoImplicit false

namespace KernelConfig.Namespace

/-! ### Usable identifiers -/

/-- An identifier that the language knows and does not use itself. -/
def IsUsable (id : String) : Prop := isIdentifier id = true ∧ id ∉ reserved

instance (id : String) : Decidable (IsUsable id) := inferInstanceAs (Decidable (_ ∧ _))

/-- What is wrong with an identifier that cannot be used. -/
def faultOf (id : String) : IdentifierFault :=
  if isIdentifier id then .reserved id else .malformed id

/-- The keywords are written without capitals. -/
theorem not_mem_keywords {id : String} (h : isEligible id = true) : id ∉ keywords := by
  have hkeywords : ∀ k ∈ keywords, isEligible k = false := by decide
  intro hmem
  rw [hkeywords id hmem] at h
  cases h

theorem validate_of_eligible {id : String} (h : isEligible id = true) :
    validate id = if IsUsable id then .ok id else .error (faultOf id) := by
  cases hid : isIdentifier id with
  | false => simp [validate, IsUsable, faultOf, hid]
  | true =>
    by_cases hreserved : id ∈ reserved <;>
      simp [validate, IsUsable, faultOf, hid, not_mem_keywords h, hreserved]

theorem isEligible_of_mem_identifiers {lead name id : String} (h : isEligible name = true)
    (hid : id ∈ (bindingOf lead name).identifiers) : isEligible id = true := by
  rcases mem_identifiers_bindingOf.mp hid with rfl | ⟨rfl, -⟩
  · exact isEligible_append lead h
  · exact h

/-! ### Names -/

/-- A name all of whose globals can be used. -/
def IsBindable (lead name : String) : Prop := ∀ id ∈ (bindingOf lead name).identifiers, IsUsable id

theorem isBindable_iff {lead name : String} : IsBindable lead name ↔
    IsUsable (lead ++ name) ∧ (startsWithDigit name = false → IsUsable name) := by
  simp only [IsBindable, mem_identifiers_bindingOf, forall_eq_or_imp]
  exact and_congr_right fun _ => ⟨fun h hdigit => h name ⟨rfl, hdigit⟩, fun h id hid => hid.1 ▸ h hid.2⟩

/-- The first global of a name that cannot be used, and what is wrong with it. -/
def Offends (lead name : String) (f : IdentifierFault) : Prop :=
  (¬ IsUsable (lead ++ name) ∧ faultOf (lead ++ name) = f) ∨
    (IsUsable (lead ++ name) ∧ startsWithDigit name = false ∧ ¬ IsUsable name ∧ faultOf name = f)

variable {lead name : String} {f : IdentifierFault}

theorem bind_of_bindable (hel : isEligible name = true) (h : IsBindable lead name) :
    bind lead name = .ok (bindingOf lead name) := by
  obtain ⟨hlong, hbare⟩ := isBindable_iff.mp h
  rw [bind, validate_of_eligible (isEligible_append lead hel), if_pos hlong]
  cases hdigit : startsWithDigit name with
  | true => simp [bindingOf, hdigit]
  | false => simp [bindingOf, hdigit, validate_of_eligible hel, hbare hdigit]

theorem bind_eq_error_iff (hel : isEligible name = true) :
    bind lead name = .error f ↔ Offends lead name f := by
  rw [bind, validate_of_eligible (isEligible_append lead hel)]
  by_cases hlong : IsUsable (lead ++ name)
  · cases hdigit : startsWithDigit name with
    | true => simp [Offends, hlong, hdigit]
    | false =>
      by_cases hbare : IsUsable name <;>
        simp [Offends, hlong, hdigit, validate_of_eligible hel, hbare]
  · simp [Offends, hlong]

theorem Offends.not_bindable (h : Offends lead name f) : ¬ IsBindable lead name := by
  rw [isBindable_iff]
  rintro ⟨hlong, hbare⟩
  rcases h with ⟨hnot, -⟩ | ⟨-, hdigit, hnot, -⟩
  · exact hnot hlong
  · exact hnot (hbare hdigit)

/-! ### Plans -/

theorem bindAll_of_bindable {names : List String}
    (h : ∀ name ∈ names, isEligible name = true ∧ IsBindable lead name) :
    bindAll lead names = .ok (names.map (bindingOf lead)) := by
  induction names with
  | nil => rfl
  | cons name rest ih =>
    rw [List.forall_mem_cons] at h
    rw [bindAll, bind_of_bindable h.1.1 h.1.2, ih h.2]
    rfl

/-- The names are gone through in their order, up to the first that offends. -/
theorem exists_offending {names : List String} (hel : ∀ name ∈ names, isEligible name = true)
    (h : bindAll lead names = .error f) : ∃ before name behind, names = before ++ name :: behind ∧
      (∀ other ∈ before, IsBindable lead other) ∧ Offends lead name f := by
  induction names with
  | nil => cases h
  | cons name rest ih =>
    rw [List.forall_mem_cons] at hel
    by_cases hbindable : IsBindable lead name
    · rw [bindAll, bind_of_bindable hel.1 hbindable] at h
      cases hrest : bindAll lead rest with
      | ok bs => rw [hrest] at h; cases h
      | error f' =>
        rw [hrest] at h
        cases h
        obtain ⟨before, offending, behind, rfl, hbefore, hoffends⟩ := ih hel.2 hrest
        exact ⟨name :: before, offending, behind, rfl, List.forall_mem_cons.mpr ⟨hbindable, hbefore⟩,
          hoffends⟩
    · refine ⟨[], name, rest, rfl, by simp, (bind_eq_error_iff hel.1).mp ?_⟩
      cases hbind : bind lead name with
      | ok b => exact absurd (fun id hid => (bind_eq_ok hbind).2 id ((bind_eq_ok hbind).1 ▸ hid)) hbindable
      | error f' =>
        rw [bindAll, hbind] at h
        cases h
        rfl

/-- Lists of the same names have the same plan. -/
theorem plan_congr (lead : String) {names names' : List String} (h : ∀ x, x ∈ names' ↔ x ∈ names) :
    plan lead names' = plan lead names := by
  have hsame : sortNames names' = sortNames names :=
    (pairwise_sortNames names').eq_of_mem_iff (pairwise_sortNames names) fun x => by
      rw [mem_sortNames, mem_sortNames, h]
  rw [plan, plan, hsame]

theorem plan_of_bindable {names : List String}
    (h : ∀ name ∈ names, isEligible name = true → IsBindable lead name) :
    plan lead names = .ok ((eligibleNames names).map (bindingOf lead)) :=
  bindAll_of_bindable fun name hname =>
    have hmem := mem_eligibleNames.mp hname
    ⟨hmem.2, h name hmem.1 hmem.2⟩

/-- A plan is refused for the least name that offends. -/
theorem least_of_plan_eq_error {names : List String} (h : plan lead names = .error f) :
    ∃ name ∈ names, isEligible name = true ∧ Offends lead name f ∧
      ∀ other ∈ names, isEligible other = true → other < name → IsBindable lead other := by
  have hel : ∀ name ∈ eligibleNames names, isEligible name = true := fun name hname =>
    (mem_eligibleNames.mp hname).2
  have hsorted : (eligibleNames names).Pairwise (· < ·) := (pairwise_sortNames names).filter _
  obtain ⟨before, name, behind, hsplit, hbefore, hoffends⟩ := exists_offending hel h
  rw [hsplit] at hsorted
  have hmem : name ∈ eligibleNames names := by simp [hsplit]
  refine ⟨name, (mem_eligibleNames.mp hmem).1, hel name hmem, hoffends, fun other hother hel' hlt => ?_⟩
  have hother' : other ∈ before ++ name :: behind := hsplit ▸ mem_eligibleNames.mpr ⟨hother, hel'⟩
  rcases List.mem_append.mp hother' with hbefore' | hbehind
  · exact hbefore other hbefore'
  · -- What stands behind is greater.
    have hbehind' := List.pairwise_cons.mp (List.pairwise_append.mp hsorted).2.1
    rcases List.mem_cons.mp hbehind with rfl | hbehind
    · exact absurd hlt (lt_irrefl _)
    · exact absurd hlt (lt_asymm (hbehind'.1 other hbehind))

theorem plan_isOk_iff {names : List String} : (∃ bs, plan lead names = .ok bs) ↔
    ∀ name ∈ names, isEligible name = true → IsBindable lead name := by
  constructor
  · rintro ⟨bs, hbs⟩ name hname hel id hid
    obtain ⟨rfl, hids⟩ := plan_eq_ok hbs
    exact hids _ (List.mem_map_of_mem (mem_eligibleNames.mpr ⟨hname, hel⟩)) id hid
  · exact fun h => ⟨_, plan_of_bindable h⟩

end KernelConfig.Namespace
