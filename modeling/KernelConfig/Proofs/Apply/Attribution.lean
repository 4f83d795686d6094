import KernelConfig.Proofs.Apply.TextWrites

/-!
Attribution: what a setter is told about where it has been called is recorded, and changes nothing else.
-/

set_option autoImplicit false

namespace KernelConfig

/-- A symbol without where its assignments come from; how many there have been is left. -/
def Symbol.unattributed (s : Symbol) : Symbol := { s with history := s.history.map fun _ => ⟨"", none⟩ }

namespace SymbolTable

/-- A table without where its assignments come from. -/
def unattributed (t : SymbolTable) : SymbolTable := { t with symbols := t.symbols.map Symbol.unattributed }

/-- Tables that differ in where their assignments come from at most have the same values, and as many
assignments of each symbol. -/
theorem values_of_unattributed {t t' : SymbolTable} (h : t.unattributed = t'.unattributed) :
    t.symbols.map (fun s => (s.name, s.value, s.history.length)) =
      t'.symbols.map fun s => (s.name, s.value, s.history.length) := by
  have hvalues : ∀ t : SymbolTable, t.symbols.map (fun s => (s.name, s.value, s.history.length)) =
      t.unattributed.symbols.map fun s => (s.name, s.value, s.history.length) := fun t => by
    simp [unattributed, Symbol.unattributed, Function.comp_def]
  rw [hvalues t, hvalues t', h]

theorem unattributed_update_record (t : SymbolTable) (s : Symbol) (v : SymbolValue) (p p' : Provenance) :
    (t.update (s.record v p)).unattributed = (t.update (s.record v p')).unattributed := by
  have hsame : (s.record v p).unattributed = (s.record v p').unattributed := by
    simp [Symbol.unattributed, Symbol.record]
  have hname : ∀ p, (s.record v p).name = s.name := fun _ => rfl
  simp only [unattributed, update, List.map_map, SymbolTable.mk.injEq, and_true, hname]
  refine List.map_congr_left fun old _ => ?_
  simp only [Function.comp_apply]
  split
  · exact hsame
  · rfl

end SymbolTable

namespace Apply

variable {w : Surroundings} {c : Caller} {s s' : ApplyState}

/-- Which symbol a script means depends on the table alone. -/
theorem symbol_of_table (w : Surroundings) (c : Caller) (d : Datum) (t : SymbolTable) :
    ∃ r, ∀ s : ApplyState, s.table = t → symbol w c d s = (r, s) := by
  unfold symbol textArgument
  cases d.asText? with
  | none => exact ⟨_, fun s _ => rfl⟩
  | some name =>
    cases hs : t.symbol? name with
    | none =>
      let f := ((Fault.of .unknownSymbol ("Unknown symbol: " ++ name)).withSymbol name).withSource c.source
      refine ⟨.error (.fault { f with fatal := w.settings.strictSymbols }), fun s htable => ?_⟩
      rw [bind_run_ok (pure_run name s), bind_run_ok (table_run s), htable, hs]
      rfl
    | some sym =>
      refine ⟨.ok sym, fun s htable => ?_⟩
      rw [bind_run_ok (pure_run name s), bind_run_ok (table_run s), htable, hs]
      rfl

theorem assign_unattributed (htable : s'.table = s.table) (sym : Symbol) (v : SymbolValue)
    (source traceback source' traceback' : Datum) :
    (assign c sym v source' traceback' s').1 = (assign c sym v source traceback s).1 ∧
      (assign c sym v source' traceback' s').2.table.unattributed =
        (assign c sym v source traceback s).2.table.unattributed := by
  unfold assign
  rw [bind_run_ok (table_run s'), bind_run_ok (table_run s), htable]
  unfold SymbolTable.set Symbol.set
  cases sym.coerce v with
  | error r => exact ⟨rfl, congrArg SymbolTable.unattributed htable⟩
  | ok v' => exact ⟨rfl, s.table.unattributed_update_record sym v' _ _⟩

/-- A setter does the same whatever it is told besides the symbol and the value. -/
theorem use_unattributed {what : Capability} (hsets : what.sets = true) (htable : s'.table = s.table)
    (name value : Datum) {origins : List Datum} (hcount : origins.length ≤ 2) :
    (use w c what (name :: value :: origins) s').1 = (use w c what [name, value] s).1 ∧
      (use w c what (name :: value :: origins) s').2.table.unattributed =
        (use w c what [name, value] s).2.table.unattributed := by
  have hparameters : what.parameters = 4 := by cases what <;> first | rfl | cases hsets
  obtain ⟨r, hr⟩ := symbol_of_table w c name s.table
  have hlength : (name :: value :: origins).length ≤ what.parameters := by
    rw [hparameters]
    exact Nat.add_le_add_right hcount 2
  have hpair : [name, value].length ≤ what.parameters := Nat.le_trans (Nat.le_add_left 2 _) hlength
  rw [use_of_sets hsets hlength, use_of_sets hsets hpair]
  simp only [List.getD_cons_zero, List.getD_cons_succ]
  cases r with
  | error e =>
    rw [bind_run_error (hr s' htable), bind_run_error (hr s rfl)]
    exact ⟨rfl, congrArg SymbolTable.unattributed htable⟩
  | ok sym =>
    rw [bind_run_ok (hr s' htable), bind_run_ok (hr s rfl)]
    cases what.reading sym value with
    | error f => exact ⟨rfl, congrArg SymbolTable.unattributed htable⟩
    | ok v => exact assign_unattributed htable sym v _ _ _ _

end Apply

end KernelConfig
