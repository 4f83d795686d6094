import Mathlib.Data.List.Nodup
import KernelConfig.Proofs.Value.NumberLiteral
import KernelConfig.Symbol.Table

/-!
Typed tables: every symbol holds nothing or a value of its declared type. What a symbol accepts it
holds in that form, and reading the text of such a value gives the value back.
-/

set_option autoImplicit false

namespace KernelConfig

/-- Whether a value is one that a symbol of this type and range holds. -/
def SymbolValue.Fits (type : SymbolType) (range : Option (Int × Int)) (v : SymbolValue) : Prop :=
  match type with
  | .boolean => ∃ b, v = .bool b
  | .tristate => ∃ t, v = .tristate t
  | .string => ∃ s, v = .auto s
  | .number => ∃ n, v = .number n ∧ n.toNat < 2 ^ 64 ∧
      ∀ low high, range = some (low, high) → low ≤ n.toNat ∧ n.toNat ≤ high
  | .auto => True

def Symbol.WellTyped (s : Symbol) : Prop := ∀ v, s.value = some v → v.Fits s.type s.range

namespace SymbolTable

def WellTyped (t : SymbolTable) : Prop := ∀ s ∈ t.symbols, s.WellTyped

/-- No two symbols share a name. -/
def Distinct (t : SymbolTable) : Prop := t.names.Nodup

instance (t : SymbolTable) : Decidable t.Distinct := inferInstanceAs (Decidable t.names.Nodup)

end SymbolTable

/-! ### Symbols -/

namespace Symbol

theorem inRange_eq_ok {range : Option (Int × Int)} {n : UInt64} {v : SymbolValue} :
    inRange range n = .ok v ↔
      v = .number n ∧ ∀ low high, range = some (low, high) → low ≤ n.toNat ∧ n.toNat ≤ high := by
  cases range with
  | none => simp [inRange, eq_comm]
  | some r =>
    obtain ⟨low, high⟩ := r
    by_cases h : low ≤ (n.toNat : Int) ∧ (n.toNat : Int) ≤ high
    · simp [inRange, h, eq_comm]
    · have hf : ¬ ((decide (low ≤ (n.toNat : Int)) && decide ((n.toNat : Int) ≤ high)) = true) := by
        simpa using h
      simp only [inRange, if_neg hf]
      constructor
      · intro hv; cases hv
      · rintro ⟨-, hr⟩; exact absurd (hr low high rfl) h

theorem inRange_fits {range : Option (Int × Int)} {n : UInt64} {v : SymbolValue}
    (h : inRange range n = .ok v) : v.Fits .number range := by
  obtain ⟨rfl, hr⟩ := inRange_eq_ok.mp h
  exact ⟨n, rfl, n.toNat_lt, hr⟩

theorem boolOfState_fits {range : Option (Int × Int)} {v w : SymbolValue} {t : Tristate}
    (h : boolOfState v t = .ok w) : w.Fits .boolean range := by
  cases t <;> cases h <;> exact ⟨_, rfl⟩

/-- What is accepted is held as a value of the declared type. -/
theorem coerceTo_fits {type : SymbolType} {range : Option (Int × Int)} {v w : SymbolValue}
    (h : coerceTo type range v = .ok w) : w.Fits type range := by
  cases type with
  | auto => exact trivial
  | boolean =>
    cases v with
    | bool b => cases h; exact ⟨b, rfl⟩
    | tristate t => exact boolOfState_fits h
    | number n => cases h
    | auto s =>
      simp only [coerceTo] at h
      split at h
      · exact boolOfState_fits h
      · cases h
  | tristate =>
    cases v with
    | bool b => cases h; exact ⟨_, rfl⟩
    | tristate t => cases h; exact ⟨t, rfl⟩
    | number n => cases h
    | auto s =>
      simp only [coerceTo] at h
      split at h <;> cases h
      exact ⟨_, rfl⟩
  | number =>
    cases v with
    | bool b => cases h
    | tristate t => cases h
    | number n => exact inRange_fits h
    | auto s =>
      simp only [coerceTo] at h
      split at h
      · exact inRange_fits h
      · cases h
  | string =>
    cases v with
    | auto s => cases h; exact ⟨s, rfl⟩
    | bool b => cases h
    | tristate t => cases h
    | number n => cases h

/-- A value of the declared type is held as it is, so coercing once more changes nothing. -/
theorem coerceTo_of_fits {type : SymbolType} {range : Option (Int × Int)} {v : SymbolValue}
    (h : v.Fits type range) : coerceTo type range v = .ok v := by
  cases type with
  | auto => rfl
  | boolean => obtain ⟨b, rfl⟩ := h; rfl
  | tristate => obtain ⟨t, rfl⟩ := h; rfl
  | string => obtain ⟨s, rfl⟩ := h; rfl
  | number =>
    obtain ⟨n, rfl, -, hr⟩ := h
    exact inRange_eq_ok.mpr ⟨rfl, hr⟩

theorem coerce_eq_ok {s : Symbol} {v w : SymbolValue} :
    s.coerce v = .ok w ↔ coerceTo s.type s.range v = .ok w := by
  unfold coerce
  cases coerceTo s.type s.range v <;> simp

@[simp] theorem reset_record (s : Symbol) (v : SymbolValue) (p : Provenance) :
    (s.record v p).reset = s.reset := rfl

@[simp] theorem reset_reset (s : Symbol) : s.reset.reset = s.reset := rfl

theorem wellTyped_reset (s : Symbol) : s.reset.WellTyped := by
  intro v hv; cases hv

theorem name_eq_of_reset {s s' : Symbol} (h : s.reset = s'.reset) : s.name = s'.name := by
  have hn : s.reset.name = s'.reset.name := by rw [h]
  exact hn

theorem type_eq_of_reset {s s' : Symbol} (h : s.reset = s'.reset) : s.type = s'.type := by
  have ht : s.reset.type = s'.reset.type := by rw [h]
  exact ht

theorem ofText?_text (t : Tristate) : Tristate.ofText? t.text = some t := by cases t <;> decide

theorem stateOfText_text (t : Tristate) : stateOfText t.text = .ok t := by
  simp [stateOfText, Tristate.ofDatum, ofText?_text]

/-- The symbol's text, as a text of any kind is read, is its value again. -/
theorem coerceTo_text {s : Symbol} {v : SymbolValue} (hv : s.value = some v)
    (hf : v.Fits s.type s.range) (ht : s.type ≠ .auto) :
    coerceTo s.type s.range (.auto s.text) = .ok v := by
  cases hk : s.type with
  | auto => exact absurd hk ht
  | boolean =>
    rw [hk] at hf
    obtain ⟨b, rfl⟩ := hf
    have htext : s.text = (Tristate.ofBool b).text := by
      cases b <;> simp [text, hv, SymbolValue.text, Tristate.ofBool, Tristate.text]
    simp only [htext, coerceTo, stateOfText_text]
    cases b <;> rfl
  | tristate =>
    rw [hk] at hf
    obtain ⟨t, rfl⟩ := hf
    have htext : s.text = t.text := by simp [text, hv, SymbolValue.text]
    simp only [htext, coerceTo, stateOfText_text]
  | string =>
    rw [hk] at hf
    obtain ⟨x, rfl⟩ := hf
    have htext : s.text = x := by simp [text, hv, SymbolValue.text]
    rw [htext]
    rfl
  | number =>
    rw [hk] at hf
    obtain ⟨n, rfl, -, hr⟩ := hf
    have hparse : NumberLiteral.parse s.text = .ok n := by
      simp only [text, hv]
      split
      · exact NumberLiteral.parse_hexadecimal n
      · exact NumberLiteral.parse_decimal n
    simp only [coerceTo, numberOfDatum, hparse]
    exact inRange_eq_ok.mpr ⟨rfl, hr⟩

end Symbol

/-! ### Tables -/

namespace SymbolTable

@[simp] theorem symbols_reset (t : SymbolTable) : t.reset.symbols = t.symbols.map Symbol.reset := rfl

@[simp] theorem names_reset (t : SymbolTable) : t.reset.names = t.names := by
  simp [names, Symbol.reset]

@[simp] theorem reset_reset (t : SymbolTable) : t.reset.reset = t.reset := by
  simp [reset]

theorem wellTyped_reset (t : SymbolTable) : t.reset.WellTyped := by
  intro s hs
  obtain ⟨s, -, rfl⟩ := List.mem_map.mp hs
  exact s.wellTyped_reset

theorem names_eq_of_reset {t t' : SymbolTable} (h : t.reset = t'.reset) : t.names = t'.names := by
  rw [← names_reset t, h, names_reset]

theorem distinct_of_reset {t t' : SymbolTable} (h : t.reset = t'.reset) (hd : t.Distinct) :
    t'.Distinct := by
  rwa [Distinct, ← names_eq_of_reset h]

theorem mem_of_symbol? {t : SymbolTable} {name : String} {s : Symbol} (h : t.symbol? name = some s) :
    s ∈ t.symbols := List.mem_of_find?_eq_some h

theorem name_of_symbol? {t : SymbolTable} {name : String} {s : Symbol} (h : t.symbol? name = some s) :
    s.name = name := by simpa using List.find?_some h

/-- With distinct names a name means one symbol. -/
theorem eq_of_name_eq {t : SymbolTable} (hd : t.Distinct) {s s' : Symbol} (hs : s ∈ t.symbols)
    (hs' : s' ∈ t.symbols) (h : s.name = s'.name) : s = s' :=
  List.inj_on_of_nodup_map hd hs hs' h

theorem symbol?_name {t : SymbolTable} (hd : t.Distinct) {s : Symbol} (hs : s ∈ t.symbols) :
    t.symbol? s.name = some s := by
  cases h : t.symbol? s.name with
  | none => simpa using List.find?_eq_none.mp h s hs
  | some s' => rw [eq_of_name_eq hd (mem_of_symbol? h) hs (name_of_symbol? h)]

/-- Replacing a symbol by one with the same declaration keeps all declarations. -/
theorem reset_update {t : SymbolTable} (hd : t.Distinct) {s s' : Symbol} (hs : s ∈ t.symbols)
    (h : s'.reset = s.reset) : (t.update s').reset = t.reset := by
  have hmap : ∀ old ∈ t.symbols,
      (if old.name = s'.name then s' else old).reset = old.reset := by
    intro old hold
    split
    · rename_i hn
      rw [h, eq_of_name_eq hd hold hs (hn.trans (Symbol.name_eq_of_reset h))]
    · rfl
  simp only [reset, update, List.map_map]
  congr 1
  exact List.map_congr_left hmap

theorem wellTyped_update {t : SymbolTable} {s : Symbol} (ht : t.WellTyped) (hs : s.WellTyped) :
    (t.update s).WellTyped := by
  intro s' hs'
  obtain ⟨old, hold, rfl⟩ := List.mem_map.mp hs'
  split
  · exact hs
  · exact ht old hold

theorem set_eq_ok {t t' : SymbolTable} {s : Symbol} {v : SymbolValue} {p : Provenance} :
    t.set s v p = .ok t' ↔
      ∃ w, Symbol.coerceTo s.type s.range v = .ok w ∧ t' = t.update (s.record w p) := by
  unfold SymbolTable.set Symbol.set
  cases h : s.coerce v with
  | error r =>
    have hn : ∀ w, Symbol.coerceTo s.type s.range v ≠ .ok w := by
      intro w hw
      rw [Symbol.coerce_eq_ok.mpr hw] at h
      cases h
    simp [Except.map, hn]
  | ok w =>
    rw [Symbol.coerce_eq_ok] at h
    simp [Except.map, h, eq_comm]

/-- An accepted assignment keeps a table typed, and keeps its declarations. -/
theorem set_keeps {t t' : SymbolTable} {s : Symbol} {v : SymbolValue} {p : Provenance}
    (hd : t.Distinct) (hs : s ∈ t.symbols) (h : t.set s v p = .ok t') :
    t'.reset = t.reset ∧ (t.WellTyped → t'.WellTyped) := by
  obtain ⟨w, hw, rfl⟩ := set_eq_ok.mp h
  refine ⟨reset_update hd hs (Symbol.reset_record s w p), fun ht => wellTyped_update ht ?_⟩
  intro x hx
  cases hx
  exact Symbol.coerceTo_fits hw

end SymbolTable

end KernelConfig
