import KernelConfig.Proofs.Script.Tables

/-!
Confined stores: no table but the io library holds what a sandbox takes away, except at places that are
known. Some changes of a store put it nowhere else, and a script reaches it only through these places.
-/

set_option autoImplicit false

namespace KernelConfig.Script

/-- Functions that lead out of a script: a sandbox takes them away. -/
def outwardFunctions : List Native :=
  [.dofile, .loadfile, .osExecute, .osRemove, .osRename, .osExit, .osTmpname, .packageLoadlib,
    .debugSethook, .debugGetupvalue, .debugSetupvalue, .debugUpvaluejoin, .debugGetlocal,
    .debugSetlocal, .debugGetregistry, .ioClose, .ioFlush, .ioInput, .ioLines, .ioOpen, .ioOutput,
    .ioPopen, .ioRead, .ioTmpfile, .ioType, .ioWrite]

/-- A value that is neither such a function nor the io library, which is the table `io`. -/
def Inward (io : Nat) (v : Value) : Prop := v ≠ .table io ∧ ∀ fn ∈ outwardFunctions, v ≠ .native fn

instance (io : Nat) (v : Value) : Decidable (Inward io v) :=
  inferInstanceAs (Decidable (v ≠ .table io ∧ ∀ fn ∈ outwardFunctions, v ≠ .native fn))

variable {io : Nat}

theorem inward_of_not_native {v : Value} (htable : v ≠ .table io) (h : ∀ fn, v ≠ .native fn) :
    Inward io v := ⟨htable, fun fn _ => h fn⟩

@[simp] theorem inward_nil (io : Nat) : Inward io .nil :=
  inward_of_not_native (by simp) (by simp)

@[simp] theorem inward_text (io : Nat) (x : String) : Inward io (.text x) :=
  inward_of_not_native (by simp [Value.text]) (by simp [Value.text])

@[simp] theorem inward_bool (io : Nat) (b : Bool) : Inward io (.bool b) :=
  inward_of_not_native (by simp) (by simp)

@[simp] theorem inward_closure (io id : Nat) : Inward io (.closure id) :=
  inward_of_not_native (by simp) (by simp)

theorem inward_table {id : Nat} (h : id ≠ io) : Inward io (.table id) :=
  inward_of_not_native (by simpa using h) (by simp)

/-- A table that has nothing in it that leads out of a script. -/
def Table.IsInward (io : Nat) (t : Table) : Prop :=
  (∀ key, Inward io (t.get key)) ∧ t.metatable ≠ some io

theorem Table.inward_items {items : Array Value} (h : ∀ v ∈ items.toList, Inward io v) :
    ({ items } : Table).IsInward io := by
  refine ⟨fun key => ?_, by simp⟩
  rcases get_cases { items } key with hnil | hitem | ⟨k, slot, -, hslot, -⟩
  · rw [hnil]
    exact inward_nil io
  · exact h _ hitem
  · simp at hslot

theorem Table.inward_empty (io : Nat) : ({} : Table).IsInward io := inward_items (by simp)

theorem Table.IsInward.set {t : Table} (h : t.IsInward io) (k : Bytes) {v : Value}
    (hv : Inward io v) : (t.set (.string k) v).IsInward io := by
  refine ⟨fun key => ?_, by simpa using h.2⟩
  rcases get_set_string_cases t k v key with hsame | hv'
  · rw [hsame]
    exact h.1 key
  · rw [hv']
    exact hv

/-- Outside the io library, only the exits have values that lead out of a script. -/
structure Confined (io : Nat) (exits : List (Nat × String)) (s : Store) : Prop where
  values : ∀ id, id ≠ io → ∀ key, Inward io (s.rawGet id key) ∨ ∃ e ∈ exits, id = e.1 ∧ key = .text e.2
  tables : ∀ id, (s.table id).metatable ≠ some io
  others : ∀ e ∈ s.metatables, e.2 ≠ io

/-- A store comes from another one without having got anything that leads out. -/
structure Harmless (io : Nat) (s s' : Store) : Prop where
  values : ∀ id key, s'.rawGet id key = s.rawGet id key ∨ Inward io (s'.rawGet id key)
  tables : ∀ id, (s'.table id).metatable = (s.table id).metatable ∨ (s'.table id).metatable ≠ some io
  others : s'.metatables = s.metatables
  loaded : s'.loaded = s.loaded

variable {exits : List (Nat × String)} {s s' s'' : Store}

theorem Confined.mono {exits' : List (Nat × String)} (h : Confined io exits s)
    (hsub : ∀ e ∈ exits, e ∈ exits') : Confined io exits' s where
  values id hid key := (h.values id hid key).imp_right fun ⟨e, he, hat⟩ => ⟨e, hsub e he, hat⟩
  tables := h.tables
  others := h.others

/-- A field that is cleared is no exit any more. -/
theorem Confined.clear (h : Confined io exits s) (e : Nat × String) :
    Confined io (exits.filter (· ≠ e)) (s.setText e.1 e.2 .nil) where
  values id hid key := by
    rcases Store.rawGet_rawSet_cases s e.1 (bytes e.2) .nil id key with hsame | hnil
    · rcases h.values id hid key with hinward | ⟨e', he', rfl, rfl⟩
      · exact .inl (by rwa [Store.setText, Value.text, hsame])
      by_cases heq : e' = e
      · subst heq
        exact .inl (by simp [Store.setText, Value.text])
      · exact .inr ⟨e', List.mem_filter.mpr ⟨he', by simpa using heq⟩, rfl, rfl⟩
    · exact .inl (by rw [Store.setText, Value.text, hnil]; exact inward_nil io)
  tables id := by simpa [Store.setText, Value.text] using h.tables id
  others := h.others

/-- Members of a library are cleared. -/
def Store.clearAll (s : Store) (id : Nat) (names : List String) : Store :=
  names.foldl (fun s name => s.setText id name .nil) s

theorem Confined.clearAll (h : Confined io exits s) (id : Nat) (names : List String) :
    Confined io (exits.filter fun e => !(e.1 = id && e.2 ∈ names)) (s.clearAll id names) := by
  induction names generalizing exits s with
  | nil => simpa [Store.clearAll] using h
  | cons name rest ih =>
    have hrest := ih (h.clear (id, name))
    rw [List.filter_filter] at hrest
    refine hrest.mono fun e he => ?_
    simp only [List.mem_filter, List.mem_cons] at he ⊢
    grind

theorem Confined.of_harmless (h : Confined io exits s) (hs : Harmless io s s') :
    Confined io exits s' where
  values id hid key := by
    rcases hs.values id key with hsame | hinward
    · rw [hsame]
      exact h.values id hid key
    · exact .inl hinward
  tables id := by
    rcases hs.tables id with hsame | hne
    · rw [hsame]
      exact h.tables id
    · exact hne
  others := by
    rw [hs.others]
    exact h.others

namespace Harmless

theorem refl (io : Nat) (s : Store) : Harmless io s s where
  values _ _ := .inl rfl
  tables _ := .inl rfl
  others := rfl
  loaded := rfl

/-- Variables and functions are not looked at. -/
theorem of_tables (htables : s'.tables = s.tables) (hothers : s'.metatables = s.metatables)
    (hloaded : s'.loaded = s.loaded) : Harmless io s s' where
  values id key := .inl (by rw [Store.rawGet, Store.table, htables]; rfl)
  tables id := .inl (by rw [Store.table, htables]; rfl)
  others := hothers
  loaded := hloaded

theorem trans (h : Harmless io s s') (h' : Harmless io s' s'') : Harmless io s s'' where
  values id key := by
    rcases h'.values id key with hsame | hinward
    · rw [hsame]
      exact h.values id key
    · exact .inr hinward
  tables id := by
    rcases h'.tables id with hsame | hne
    · rw [hsame]
      exact h.tables id
    · exact .inr hne
  others := h'.others.trans h.others
  loaded := h'.loaded.trans h.loaded

theorem rawSet (s : Store) (id : Nat) (k : Bytes) {v : Value} (hv : Inward io v) :
    Harmless io s (s.rawSet id (.string k) v) where
  values i key := by
    rcases Store.rawGet_rawSet_cases s id k v i key with hsame | hv'
    · exact .inl hsame
    · rw [hv']
      exact .inr hv
  tables i := .inl (by simp)
  others := rfl
  loaded := rfl

theorem setMetatable (s : Store) (id : Nat) {m : Nat} (hm : m ≠ io) :
    Harmless io s (s.updateTable id fun t => { t with metatable := some m }) where
  values i key := by
    refine .inl ?_
    simp only [Store.rawGet, Store.updateTable, Store.table, Array.getD_eq_getD_getElem?,
      Array.getElem?_modify]
    split
    · cases s.tables[i]? <;> rfl
    · rfl
  tables i := by
    by_cases hi : i = id
    · subst hi
      simp only [Store.updateTable, Store.table, Array.getD_eq_getD_getElem?, Array.getElem?_modify]
      cases s.tables[i]? with
      | none => exact .inl rfl
      | some t => exact .inr (by simpa using hm)
    · rw [Store.table_updateTable_of_ne hi]
      exact .inl rfl
  others := rfl
  loaded := rfl

theorem addTables (s : Store) {ts : Array Table} (h : ∀ t ∈ ts, t.IsInward io) :
    Harmless io s { s with tables := s.tables ++ ts } := by
  have hcases : ∀ id, ({ s with tables := s.tables ++ ts } : Store).table id = s.table id ∨
      ∃ t ∈ ts, ({ s with tables := s.tables ++ ts } : Store).table id = t := by
    intro id
    simp only [Store.table, Array.getD_eq_getD_getElem?]
    by_cases hid : id < s.tables.size
    · rw [Array.getElem?_append_left hid]
      exact .inl rfl
    · rw [Array.getElem?_append_right (by omega), Array.getElem?_eq_none (show s.tables.size ≤ id by omega)]
      cases ht : ts[id - s.tables.size]? with
      | none => exact .inl rfl
      | some t => exact .inr ⟨t, Array.mem_of_getElem? ht, rfl⟩
  refine ⟨fun id key => ?_, fun id => ?_, rfl, rfl⟩
  · rcases hcases id with hsame | ⟨t, ht, heq⟩
    · exact .inl (by rw [Store.rawGet, hsame]; rfl)
    · exact .inr (by rw [Store.rawGet, heq]; exact (h t ht).1 key)
  · rcases hcases id with hsame | ⟨t, ht, heq⟩
    · exact .inl (by rw [hsame])
    · exact .inr (by rw [heq]; exact (h t ht).2)

end Harmless

/-! ### What a script reaches -/

/-- Values that a script can write down. -/
def Value.isLiteral : Value → Bool
  | nil | bool _ | int _ | float _ | string _ => true
  | _ => false

/-- What can be got from the globals by indexing, by asking for metatables and by requiring modules, if
the fields that are closed are not read. -/
inductive Reaches (s : Store) (closed : List (Nat × String)) : Value → Prop
  | globals : Reaches s closed (.table s.globals)
  | literal {v : Value} (h : v.isLiteral = true) : Reaches s closed v
  | field {id : Nat} {key : Value} (h : Reaches s closed (.table id))
      (hopen : ∀ e ∈ closed, ¬ (id = e.1 ∧ key = .text e.2)) : Reaches s closed (s.rawGet id key)
  | metatable {v : Value} {id : Nat} (h : Reaches s closed v) (hmeta : s.metatable? v = some id) :
      Reaches s closed (.table id)
  | required {name : Bytes} (hopen : ∀ e ∈ closed, ¬ (s.loaded = e.1 ∧ .string name = Value.text e.2)) :
      Reaches s closed (s.rawGet s.loaded (.string name))

/-- What stands at the end of a path of fields. -/
def Store.follow (s : Store) (v : Value) (path : List String) : Value :=
  path.foldl (fun v name => match v with
    | .table id => s.getText id name
    | _ => .nil) v

theorem Reaches.follow {v : Value} (h : Reaches s [] v) (path : List String) :
    Reaches s [] (s.follow v path) := by
  induction path generalizing v with
  | nil => exact h
  | cons name rest ih =>
    refine ih ?_
    cases v with
    | table id => exact h.field (by simp)
    | _ => exact .literal rfl

/-! ### Checking a store -/

/-- The values of a table lead nowhere, except at the exits. -/
def Table.isConfined (io : Nat) (exits : List (Nat × String)) (id : Nat) (t : Table) : Bool :=
  t.items.toList.all (fun v => Inward io v) &&
    t.slots.toList.all fun (k, slot) =>
      Inward io slot.value || exits.any fun e => e.1 = id && k = .string (bytes e.2)

def Store.isConfined (io : Nat) (exits : List (Nat × String)) (s : Store) : Bool :=
  (List.range s.tables.size).all (fun id =>
    (id = io || (s.table id).isConfined io exits id) && (s.table id).metatable ≠ some io) &&
    s.metatables.all fun e => e.2 ≠ io

theorem key?_eq_string {key : Value} {b : Bytes} (h : key.key? = some (.string b)) :
    key = .string b := by
  cases key <;> simp [Value.key?] at h
  case float x =>
    split at h
    · cases h
    · simp at h
  case string => rw [h]
  case native fn => cases fn <;> simp [nativeKey] at h
  case host object => cases object <;> cases h

theorem confined_of_isConfined (h : s.isConfined io exits = true) : Confined io exits s := by
  simp only [Store.isConfined, Bool.and_eq_true, List.all_eq_true, List.mem_range, Bool.or_eq_true,
    decide_eq_true_eq] at h
  obtain ⟨htables, hothers⟩ := h
  have hdefault : ∀ id, s.tables.size ≤ id → s.table id = {} := fun id hid => by
    simp [Store.table, Array.getElem?_eq_none hid]
  refine ⟨fun id hid key => ?_, fun id => ?_, hothers⟩
  · by_cases hsize : id < s.tables.size
    · have htable := (htables id hsize).1.resolve_left hid
      simp only [Table.isConfined, Bool.and_eq_true, List.all_eq_true, decide_eq_true_eq,
        Bool.or_eq_true, List.any_eq_true] at htable
      rcases (s.table id).get_cases key with hnil | hitem | ⟨k, slot, hk, hslot, hvalue⟩
      · rw [Store.rawGet, hnil]
        exact .inl (inward_nil io)
      · exact .inl (htable.1 _ hitem)
      · rcases htable.2 _ hslot with hinward | ⟨e, he, hid, hkey⟩
        · rw [Store.rawGet, hvalue]
          exact .inl hinward
        · subst hkey
          exact .inr ⟨e, he, hid.symm, key?_eq_string hk⟩
    · rw [Store.rawGet, hdefault id (by omega)]
      exact .inl ((Table.inward_empty io).1 key)
  · by_cases hsize : id < s.tables.size
    · exact (htables id hsize).2
    · rw [hdefault id (by omega)]
      simp

end KernelConfig.Script
