import Mathlib.Data.Nat.Digits.Lemmas
import KernelConfig.Text.Digits
import KernelConfig.Text.DecimalDigit

/-!
Numerals and their values: the digits of a number have that number as their value, and every digit
character is read as the digit that it was written for.
-/

set_option autoImplicit false

namespace KernelConfig.Text

theorem digitsValue_append (base : Nat) (ds : List Nat) (d : Nat) :
    digitsValue base (ds ++ [d]) = digitsValue base ds * base + d := by
  simp [digitsValue]

theorem digitsValue_reverse (base : Nat) (ds : List Nat) :
    digitsValue base ds.reverse = Nat.ofDigits base ds := by
  induction ds with
  | nil => rfl
  | cons d ds ih =>
    rw [List.reverse_cons, digitsValue_append, ih, Nat.ofDigits_cons, Nat.mul_comm, Nat.add_comm]

/-- Fuel for one digit more than the number can have is enough. -/
theorem ofDigits_digitsRev (base fuel n : Nat) (hn : n < base ^ fuel) :
    Nat.ofDigits base (digitsRev base fuel n) = n := by
  induction fuel generalizing n with
  | zero => simp at hn; subst hn; rfl
  | succ fuel ih =>
    by_cases h : n < base
    · simp [digitsRev, h]
    · have hq : n / base < base ^ fuel := by
        apply Nat.div_lt_of_lt_mul
        rwa [← Nat.pow_succ']
      rw [digitsRev, if_neg h, Nat.ofDigits_cons, ih _ hq]
      exact Nat.mod_add_div n base

theorem lt_pow_log2_succ (base n : Nat) (hb : 2 ≤ base) : n < base ^ (n.log2 + 1) :=
  Nat.lt_of_lt_of_le Nat.lt_log2_self (Nat.pow_le_pow_left hb _)

theorem digitsValue_digits (base n : Nat) (hb : 2 ≤ base) : digitsValue base (digits base n) = n := by
  rw [digits, digitsValue_reverse]
  exact ofDigits_digitsRev base _ n (lt_pow_log2_succ base n hb)

theorem digitsRev_lt (base fuel n : Nat) (hb : 0 < base) : ∀ d ∈ digitsRev base fuel n, d < base := by
  induction fuel generalizing n with
  | zero => simp [digitsRev]
  | succ fuel ih =>
    by_cases h : n < base
    · simp [digitsRev, h]
    · simp only [digitsRev, if_neg h, List.mem_cons, forall_eq_or_imp]
      exact ⟨Nat.mod_lt _ hb, ih _⟩

theorem digits_lt {base n d : Nat} (hb : 0 < base) (hd : d ∈ digits base n) : d < base :=
  digitsRev_lt base _ n hb d (by simpa [digits] using hd)

theorem digitsRev_length_le (base fuel n : Nat) : (digitsRev base fuel n).length ≤ fuel := by
  induction fuel generalizing n with
  | zero => simp [digitsRev]
  | succ fuel ih =>
    by_cases h : n < base
    · simp [digitsRev, h]
    · simpa [digitsRev, h] using ih (n / base)

theorem digits_ne_nil (base n : Nat) : digits base n ≠ [] := by
  by_cases h : n < base <;> simp [digits, digitsRev, h]

theorem numeral_ne_nil (base n : Nat) : numeral base n ≠ [] := by
  simp [numeral, digits_ne_nil]

theorem numeral_length_le (base n : Nat) : (numeral base n).length ≤ n.log2 + 1 := by
  simpa [numeral, digits] using digitsRev_length_le base (n.log2 + 1) n

/-- Every character of a numeral is the character of a digit. -/
theorem exists_digit_of_mem_numeral {base n : Nat} {c : Char} (hb : 0 < base)
    (hc : c ∈ numeral base n) : ∃ d, d < base ∧ digitChar d = c := by
  obtain ⟨d, hd, rfl⟩ := List.mem_map.mp hc
  exact ⟨d, digits_lt hb hd, rfl⟩

/-! ### Reading digit characters -/

theorem digitValue?_digitChar : ∀ d < 10, digitValue? (digitChar d) = some d := by decide

theorem hexValue?_digitChar : ∀ d < 16, hexValue? (digitChar d) = some d := by decide

/-- Characters that show digits each, in the way that `view` makes of them, are read as these digits. -/
theorem mapM_of_map_eq {read? : Char → Option Nat} {view : Char → Char} {base : Nat}
    (hr : ∀ c, ∀ d < base, view c = digitChar d → read? c = some d) {s : List Char} {ds : List Nat}
    (hds : ∀ d ∈ ds, d < base) (h : s.map view = ds.map digitChar) : s.mapM read? = some ds := by
  induction ds generalizing s with
  | nil =>
    obtain rfl := List.map_eq_nil_iff.mp h
    rfl
  | cons d ds ih =>
    obtain ⟨c, s, rfl, hc, hs⟩ := List.map_eq_cons_iff.mp h
    simp only [List.mem_cons, forall_eq_or_imp] at hds
    simp [List.mapM_cons, hr c d hds.1 hc, ih hds.2 hs]

/-! ### Numerals with zeros in front and letters in either case -/

/-- The digits of a number in a base, letters in either case, with any number of zeros in front. -/
def IsNumeral (base n : Nat) (s : List Char) : Prop :=
  ∃ zeros, s.map Char.toLower = List.replicate zeros '0' ++ numeral base n

theorem toLower_digitChar : ∀ d < 16, (digitChar d).toLower = digitChar d := by decide

theorem eq_digitChar_of_toLower {c : Char} {d : Nat} (hd : d < 16) (h : c.toLower = digitChar d) :
    c = digitChar d ∨ 10 ≤ d ∧ c = Char.ofNat (55 + d) := by
  -- Only the capital letters are changed.
  have hcapital : ∀ k < 26, ∀ d < 16, (Char.ofNat (65 + k)).toLower = digitChar d →
      10 ≤ d ∧ Char.ofNat (65 + k) = Char.ofNat (55 + d) := by decide
  by_cases hupper : c.val ≥ 'A'.val ∧ c.val ≤ 'Z'.val
  · have hc : Char.ofNat (65 + (c.toNat - 65)) = c := by
      have hle : 65 ≤ c.toNat := hupper.1
      rw [Nat.add_sub_cancel' hle, Char.ofNat_toNat]
    have hk : c.toNat - 65 < 26 := by
      have hle : c.toNat ≤ 90 := hupper.2
      omega
    rw [← hc] at h ⊢
    exact .inr (hcapital _ hk d hd h)
  · have hsame : c.toLower = c := dif_neg hupper
    exact .inl (hsame.symm.trans h)

theorem digitValue?_of_toLower (c : Char) (d : Nat) (hd : d < 10) (h : c.toLower = digitChar d) :
    digitValue? c = some d := by
  rcases eq_digitChar_of_toLower (by omega) h with rfl | ⟨hten, -⟩
  · exact digitValue?_digitChar d hd
  · omega

theorem hexValue?_of_toLower (c : Char) (d : Nat) (hd : d < 16) (h : c.toLower = digitChar d) :
    hexValue? c = some d := by
  rcases eq_digitChar_of_toLower hd h with rfl | ⟨hten, rfl⟩
  · exact hexValue?_digitChar d hd
  · revert d
    decide

theorem digitsValue_zeros (base zeros : Nat) (ds : List Nat) :
    digitsValue base (List.replicate zeros 0 ++ ds) = digitsValue base ds := by
  induction zeros with
  | zero => rfl
  | succ zeros ih => simpa [digitsValue, List.replicate_succ] using ih

theorem isNumeral_numeral {base : Nat} (h0 : 0 < base) (hb : base ≤ 16) (n : Nat) :
    IsNumeral base n (numeral base n) := by
  refine ⟨0, (List.map_congr_left fun c hc => ?_).trans (List.map_id _)⟩
  obtain ⟨d, hd, rfl⟩ := exists_digit_of_mem_numeral h0 hc
  exact toLower_digitChar d (by omega)

namespace IsNumeral

variable {base n : Nat} {s : List Char} (h : IsNumeral base n s)

include h

theorem ne_nil : s ≠ [] := by
  rintro rfl
  obtain ⟨zeros, hzeros⟩ := h
  exact numeral_ne_nil base n (List.append_eq_nil_iff.mp hzeros.symm).2

theorem map_eq : ∃ zeros, s.map Char.toLower = (List.replicate zeros 0 ++ digits base n).map digitChar := by
  obtain ⟨zeros, hzeros⟩ := h
  exact ⟨zeros, by rw [hzeros, List.map_append, List.map_replicate]; rfl⟩

theorem exists_digit {c : Char} (h0 : 0 < base) (hc : c ∈ s) : ∃ d < base, c.toLower = digitChar d := by
  obtain ⟨zeros, hzeros⟩ := h.map_eq
  have hlower : c.toLower ∈ s.map Char.toLower := List.mem_map_of_mem hc
  rw [hzeros] at hlower
  obtain ⟨d, hd, hdc⟩ := List.mem_map.mp hlower
  refine ⟨d, ?_, hdc.symm⟩
  rcases List.mem_append.mp hd with hd | hd
  · rwa [List.eq_of_mem_replicate hd]
  · exact digits_lt h0 hd

/-- A numeral is read as its number by whatever reads the digits. -/
theorem mapM_eq {read? : Char → Option Nat} (hb : 2 ≤ base)
    (hr : ∀ c, ∀ d < base, c.toLower = digitChar d → read? c = some d) :
    ∃ ds, s.mapM read? = some ds ∧ digitsValue base ds = n := by
  obtain ⟨zeros, hzeros⟩ := h.map_eq
  refine ⟨List.replicate zeros 0 ++ digits base n, mapM_of_map_eq hr (fun d hd => ?_) hzeros, ?_⟩
  · rcases List.mem_append.mp hd with hd | hd
    · rw [List.eq_of_mem_replicate hd]
      omega
    · exact digits_lt (by omega) hd
  · rw [digitsValue_zeros, digitsValue_digits base n hb]

end IsNumeral

end KernelConfig.Text
