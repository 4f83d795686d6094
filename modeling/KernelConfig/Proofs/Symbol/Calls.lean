import KernelConfig.Proofs.Symbol.Typing

/-!
Runs of tracked assignments: each is accepted or refused, and a refused one leaves the table as it is.
-/

set_option autoImplicit false

namespace KernelConfig

/-- A tracked assignment to the symbol of a name. -/
structure SymbolTable.Call where
  name : String
  value : SymbolValue
  provenance : Provenance

namespace SymbolTable

/-- The table after a call, whether the symbol takes the value or not. -/
def after (t : SymbolTable) (c : Call) : SymbolTable :=
  match t.symbol? c.name with
  | none => t
  | some s => match t.set s c.value c.provenance with
    | .ok t' => t'
    | .error _ => t

/-- A call leaves the table or stores the coerced value in one of its symbols. -/
theorem after_cases (t : SymbolTable) (c : Call) : t.after c = t ∨
    ∃ s ∈ t.symbols, ∃ w, Symbol.coerceTo s.type s.range c.value = .ok w ∧ s.name = c.name ∧
      t.after c = t.update (s.record w c.provenance) := by
  unfold after
  cases hs : t.symbol? c.name with
  | none => exact .inl rfl
  | some s =>
    cases h : t.set s c.value c.provenance with
    | error r => simp [h]
    | ok t' =>
      obtain ⟨w, hw, rfl⟩ := set_eq_ok.mp h
      refine .inr ⟨s, mem_of_symbol? hs, w, hw, name_of_symbol? hs, ?_⟩
      simp [h]

theorem reset_after {t : SymbolTable} (hd : t.Distinct) (c : Call) : (t.after c).reset = t.reset := by
  rcases after_cases t c with h | ⟨s, hs, w, -, -, h⟩
  · rw [h]
  · rw [h]
    exact reset_update hd hs (Symbol.reset_record s w _)

theorem wellTyped_after {t : SymbolTable} (ht : t.WellTyped) (c : Call) : (t.after c).WellTyped := by
  rcases after_cases t c with h | ⟨s, -, w, hw, -, h⟩
  · rwa [h]
  · rw [h]
    apply wellTyped_update ht
    intro v hv
    cases hv
    exact Symbol.coerceTo_fits hw

/-- The declarations that calls find are those of the table at the start. -/
theorem reset_foldl_after (t : SymbolTable) (hd : t.Distinct) (calls : List Call) :
    (calls.foldl after t).reset = t.reset := by
  induction calls generalizing t with
  | nil => rfl
  | cons c calls ih =>
    have hr := reset_after hd c
    rw [List.foldl_cons, ih _ (distinct_of_reset hr.symm hd), hr]

theorem wellTyped_foldl_after (t : SymbolTable) (ht : t.WellTyped) (calls : List Call) :
    (calls.foldl after t).WellTyped := by
  induction calls generalizing t with
  | nil => exact ht
  | cons c calls ih => exact ih _ (wellTyped_after ht c)

end SymbolTable

/-! ### Texts on one line -/

/-- Whether a text, put into a file, stays on its line. -/
def Text.OnOneLine (s : String) : Prop := ∀ c ∈ s.toList, Text.isLineBreak c = false

instance (s : String) : Decidable (Text.OnOneLine s) :=
  List.decidableBAll (Text.isLineBreak · = false) s.toList

/-- A string symbol that holds a text without line boundaries, or none. -/
def Symbol.OnOneLine (s : Symbol) : Prop :=
  s.type = .string → ∀ x, s.value = some (.auto x) → Text.OnOneLine x

namespace SymbolTable

theorem onOneLine_after {t : SymbolTable} {c : Call} (ht : ∀ s ∈ t.symbols, s.OnOneLine)
    (hc : ∀ s ∈ t.symbols, s.name = c.name → s.type = .string →
      ∀ x, c.value = .auto x → Text.OnOneLine x) :
    ∀ s ∈ (t.after c).symbols, s.OnOneLine := by
  rcases after_cases t c with h | ⟨s, hs, w, hw, hn, h⟩
  · rwa [h]
  · rw [h]
    intro s' hs'
    obtain ⟨old, hold, rfl⟩ := List.mem_map.mp hs'
    split
    · intro htype x hx
      cases hx
      have htype : s.type = .string := htype
      -- A string symbol takes nothing but a text, and takes it as it is.
      rw [htype] at hw
      cases hv : c.value with
      | auto y => rw [hv] at hw; cases hw; exact hc s hs hn htype x hv
      | bool b => rw [hv] at hw; cases hw
      | tristate v => rw [hv] at hw; cases hw
      | number n => rw [hv] at hw; cases hw
    · exact ht old hold

theorem onOneLine_foldl_after (t : SymbolTable) (hd : t.Distinct) (calls : List Call)
    (ht : ∀ s ∈ t.symbols, s.OnOneLine)
    (hc : ∀ c ∈ calls, ∀ s ∈ t.symbols, s.name = c.name → s.type = .string →
      ∀ x, c.value = .auto x → Text.OnOneLine x) :
    ∀ s ∈ (calls.foldl after t).symbols, s.OnOneLine := by
  induction calls generalizing t with
  | nil => exact ht
  | cons c calls ih =>
    have hr := reset_after hd c
    apply ih (t.after c) (distinct_of_reset hr.symm hd)
    · exact onOneLine_after ht (hc c (by simp))
    · intro c' hc' s hs
      -- The symbols that the later calls find are declared as at the start.
      have hmem : s.reset ∈ t.reset.symbols := by
        rw [← hr]
        exact List.mem_map_of_mem hs
      obtain ⟨s₀, hs₀, heq⟩ := List.mem_map.mp hmem
      have hname := Symbol.name_eq_of_reset heq
      have htype := Symbol.type_eq_of_reset heq
      rw [← hname, ← htype]
      exact hc c' (by simp [hc']) s₀ hs₀

end SymbolTable

end KernelConfig
