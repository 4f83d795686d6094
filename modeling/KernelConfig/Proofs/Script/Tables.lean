import Mathlib.Data.List.Basic
import Std.Data.TreeMap.Lemmas
import KernelConfig.Script.Operation

/-!
Tables as maps: what a key has after an assignment, in one table and in a store of tables.
-/

set_option autoImplicit false

namespace KernelConfig.Script

/-! ### The order of keys -/

namespace Key

/-- A key as numbers whose order from left to right is the order of the keys. -/
def code : Key → List Nat
  | bool b => [0, b.toNat]
  | int i => [1, (i.toInt + 2 ^ 63).toNat]
  | float bits => [2, bits.toNat]
  | string s => 3 :: s.map UInt8.toNat
  | ref kind id => [4, kind, id]
  | named kind s => 5 :: kind :: s.map UInt8.toNat

theorem toNat_shift (i : Int64) : ((i.toInt + 2 ^ 63).toNat : Int) = i.toInt + 2 ^ 63 := by
  have := i.le_toInt
  omega

theorem compareBytes_eq (s t : Bytes) :
    compareBytes s t = Ord.compare (s.map UInt8.toNat) (t.map UInt8.toNat) := by
  induction s generalizing t with
  | nil => cases t <;> rfl
  | cons a s ih =>
    cases t with
    | nil => rfl
    | cons b t =>
      rw [List.map_cons, List.map_cons, List.compare_cons_cons, compareBytes, ← ih]
      by_cases hab : a = b
      · simp [hab]
      · have hne : a.toNat ≠ b.toNat := fun h => hab (UInt8.toNat_inj.mp h)
        simp only [beq_iff_eq, if_neg hab]
        by_cases hlt : a < b
        · rw [if_pos hlt, Nat.compare_eq_lt.mpr (UInt8.lt_iff_toNat_lt.mp hlt)]
          rfl
        · have hgt : b.toNat < a.toNat := by
            have := mt UInt8.lt_iff_toNat_lt.mpr hlt
            omega
          rw [if_neg hlt, Nat.compare_eq_gt.mpr hgt]
          rfl

theorem compare_int (i j : Int64) :
    (if i == j then Ordering.eq else if i < j then .lt else .gt) =
      Ord.compare (i.toInt + 2 ^ 63).toNat (j.toInt + 2 ^ 63).toNat := by
  have hi := toNat_shift i
  have hj := toNat_shift j
  by_cases hij : i = j
  · simp [hij]
  · have hne : i.toInt ≠ j.toInt := fun h => hij (Int64.toInt_inj.mp h)
    simp only [beq_iff_eq, if_neg hij]
    by_cases hlt : i < j
    · have := Int64.lt_iff_toInt_lt.mp hlt
      rw [if_pos hlt, Nat.compare_eq_lt.mpr (by omega)]
    · have := mt Int64.lt_iff_toInt_lt.mpr hlt
      rw [if_neg hlt, Nat.compare_eq_gt.mpr (by omega)]

theorem compare_eq_code (a b : Key) : Key.compare a b = Ord.compare a.code b.code := by
  cases a <;> cases b
  case int.int i j =>
    rw [Key.compare, compare_int]
    simp [code, List.compare_cons_cons]
  case bool.bool => simp [Key.compare, code, List.compare_cons_cons]
  case float.float => simp [Key.compare, code, List.compare_cons_cons]
  case string.string => simp [Key.compare, code, List.compare_cons_cons, compareBytes_eq]
  case ref.ref => simp [Key.compare, code, List.compare_cons_cons]
  case named.named => simp [Key.compare, code, List.compare_cons_cons, compareBytes_eq]
  -- Keys of two kinds are told apart by the first number.
  all_goals rfl

theorem code_injective {a b : Key} (h : a.code = b.code) : a = b := by
  cases a <;> cases b <;> simp [code] at h ⊢
  case bool x y => cases x <;> cases y <;> simp_all
  case int i j =>
    have hi := toNat_shift i
    have hj := toNat_shift j
    exact Int64.toInt_inj.mp (by omega)
  case float x y => exact UInt64.toNat_inj.mp h
  case string s t => exact List.map_injective_iff.mpr (fun _ _ => UInt8.toNat_inj.mp) h
  case ref => exact h
  case named => exact ⟨h.1, List.map_injective_iff.mpr (fun _ _ => UInt8.toNat_inj.mp) h.2⟩

instance : Std.TransCmp Key.compare where
  eq_swap {a b} := by
    rw [compare_eq_code, compare_eq_code]
    exact Std.OrientedOrd.eq_swap
  isLE_trans {a b c} hab hbc := by
    rw [compare_eq_code] at *
    exact Std.TransOrd.isLE_trans hab hbc

instance : Std.LawfulEqCmp Key.compare where
  compare_self {a} := by
    rw [compare_eq_code]
    exact Std.ReflOrd.compare_self
  eq_of_compare {a b} h := by
    rw [compare_eq_code] at h
    exact code_injective (Std.LawfulEqOrd.eq_of_compare h)

end Key

/-! ### Keys that are strings -/

namespace Table

variable {t : Table} {s k : Bytes} {v : Value}

theorem getKey_string (t : Table) (s : Bytes) :
    t.getKey (.string s) = ((t.slots.get? (.string s)).map (·.value)).getD .nil := rfl

theorem get_string (t : Table) (s : Bytes) : t.get (.string s) = t.getKey (.string s) := rfl

theorem set_string (t : Table) (k : Bytes) (v : Value) :
    t.set (.string k) v = t.setSlot (.string k) (.string k) v := rfl

@[simp] theorem items_setSlot (t : Table) (k : Key) (key v : Value) :
    (t.setSlot k key v).items = t.items := by
  unfold setSlot
  split
  · rfl
  · split <;> rfl

@[simp] theorem metatable_setSlot (t : Table) (k : Key) (key v : Value) :
    (t.setSlot k key v).metatable = t.metatable := by
  unfold setSlot
  split
  · rfl
  · split <;> rfl

theorem getKey_setSlot (t : Table) (k : Bytes) (key v : Value) (s : Bytes) :
    (t.setSlot (.string k) key v).getKey (.string s) =
      if s = k then v else t.getKey (.string s) := by
  have hkey : Key.compare (.string k) (.string s) = .eq ↔ k = s := by
    rw [Std.LawfulEqCmp.compare_eq_iff_eq]
    simp
  unfold setSlot
  split
  · by_cases hs : s = k
    · subst hs
      simp [getKey_string]
    · have hks : k ≠ s := fun h => hs h.symm
      simp [getKey_string, Std.TreeMap.getElem?_insert, hkey, hs, hks]
  · rename_i hnone
    by_cases hs : s = k
    · subst hs
      split
      · rename_i hv
        have : v = .nil := by cases v <;> simp_all [Value.isNil]
        simp [getKey_string, this] at hnone ⊢
        simp [hnone]
      · simp [addSlot, getKey_string]
    · have hks : k ≠ s := fun h => hs h.symm
      rw [if_neg hs]
      split
      · rfl
      · simp [addSlot, getKey_string, Std.TreeMap.getElem?_insert, hkey, hks]

/-- Assigning to a string changes no other key, of whatever kind. -/
theorem getKey_setSlot_of_ne {k' : Key} (h : k' ≠ .string k) (t : Table) (key v : Value) :
    (t.setSlot (.string k) key v).getKey k' = t.getKey k' := by
  have hcompare : Key.compare (.string k) k' ≠ .eq := fun he =>
    h (Std.LawfulEqCmp.compare_eq_iff_eq.mp he).symm
  have hslots : ((t.setSlot (.string k) key v).slots.get? k').map (·.value) =
      (t.slots.get? k').map (·.value) := by
    unfold setSlot
    split
    · simp [Std.TreeMap.getElem?_insert, hcompare]
    · split
      · rfl
      · simp [addSlot, Std.TreeMap.getElem?_insert, hcompare]
  unfold getKey position?
  rw [items_setSlot]
  split
  · split
    · rfl
    · rw [hslots]
  · rw [hslots]

/-- A string has what it was last assigned. -/
theorem get_set_string (t : Table) (k : Bytes) (v : Value) (s : Bytes) :
    (t.set (.string k) v).get (.string s) = if s = k then v else t.get (.string s) := by
  rw [set_string, get_string, get_string, getKey_setSlot]

/-- After an assignment to a string, any key has what it had or what has been assigned. -/
theorem get_set_string_cases (t : Table) (k : Bytes) (v key : Value) :
    (t.set (.string k) v).get key = t.get key ∨ (t.set (.string k) v).get key = v := by
  rw [set_string, get, get]
  cases hkey : key.key? with
  | none => exact .inl rfl
  | some k' =>
    dsimp only
    by_cases hk : k' = .string k
    · subst hk
      exact .inr ((getKey_setSlot t k _ v k).trans (if_pos rfl))
    · exact .inl (getKey_setSlot_of_ne hk t _ v)

/-- What a table gives for a key is nil or one of its values; the keys outside the array are at hand. -/
theorem get_cases (t : Table) (key : Value) : t.get key = .nil ∨ t.get key ∈ t.items.toList ∨
    ∃ k slot, key.key? = some k ∧ (k, slot) ∈ t.slots.toList ∧ t.get key = slot.value := by
  have hslots : ∀ k, ((t.slots.get? k).map (·.value)).getD .nil = .nil ∨
      ∃ slot, (k, slot) ∈ t.slots.toList ∧ ((t.slots.get? k).map (·.value)).getD .nil = slot.value := by
    intro k
    cases hslot : t.slots.get? k with
    | none => exact .inl rfl
    | some slot => exact .inr ⟨slot, Std.TreeMap.mem_toList_iff_getElem?_eq_some.mpr hslot, rfl⟩
  unfold get
  cases hkey : key.key? with
  | none => exact .inl rfl
  | some k =>
    dsimp only
    unfold getKey
    split
    · rename_i i
      split
      · rename_i p hp
        by_cases hsize : p < t.items.size
        · exact .inr (.inl (by simp [hsize]))
        · exact .inl (by simp [hsize])
      · rcases hslots (.int i) with h | ⟨slot, hmem, hvalue⟩
        · exact .inl h
        · exact .inr (.inr ⟨_, slot, rfl, hmem, hvalue⟩)
    · rcases hslots k with h | ⟨slot, hmem, hvalue⟩
      · exact .inl h
      · exact .inr (.inr ⟨_, slot, rfl, hmem, hvalue⟩)

/-- The value of a text is not in the array. -/
theorem getText_cases (t : Table) (key : String) :
    t.get (.text key) = .nil ∨ ∃ slot, (Key.string (bytes key), slot) ∈ t.slots.toList := by
  have hget : t.get (.text key) = ((t.slots.get? (.string (bytes key))).map (·.value)).getD .nil := rfl
  rw [hget]
  cases hslot : t.slots.get? (.string (bytes key)) with
  | none => exact .inl rfl
  | some slot => exact .inr ⟨slot, Std.TreeMap.mem_toList_iff_getElem?_eq_some.mpr hslot⟩

theorem get_empty (k : Value) : ({} : Table).get k = .nil := by
  rcases get_cases {} k with h | h | ⟨_, _, -, h, -⟩
  · exact h
  · cases h
  · simp at h

@[simp] theorem items_set_string (t : Table) (k : Bytes) (v : Value) :
    (t.set (.string k) v).items = t.items := by
  rw [set_string, items_setSlot]

@[simp] theorem metatable_set_string (t : Table) (k : Bytes) (v : Value) :
    (t.set (.string k) v).metatable = t.metatable := by
  rw [set_string, metatable_setSlot]

end Table

/-! ### Stores -/

namespace Store

variable {s : Store} {id i : Nat} {k k' : Bytes} {v : Value} {t : Table}

theorem table_addTable (s : Store) (t : Table) (i : Nat) :
    (s.addTable t).1.table i = if i = s.tables.size then t else s.table i := by
  simp only [addTable, table, Array.getD_eq_getD_getElem?, Array.getElem?_push]
  split <;> rfl

theorem table_updateTable (hid : id < s.tables.size) (f : Table → Table) (i : Nat) :
    (s.updateTable id f).table i = if i = id then f (s.table i) else s.table i := by
  simp only [updateTable, table, Array.getD_eq_getD_getElem?, Array.getElem?_modify]
  by_cases h : i = id
  · subst h
    simp [hid]
  · have h' : id ≠ i := fun he => h he.symm
    simp [h, h']

theorem table_updateTable_of_ne (h : i ≠ id) (f : Table → Table) :
    (s.updateTable id f).table i = s.table i := by
  have h' : id ≠ i := fun he => h he.symm
  simp [updateTable, table, Array.getD_eq_getD_getElem?, Array.getElem?_modify, h']

@[simp] theorem size_updateTable (s : Store) (id : Nat) (f : Table → Table) :
    (s.updateTable id f).tables.size = s.tables.size := by
  simp [updateTable]

/-- A field has what it was last assigned. -/
theorem rawGet_rawSet (hid : id < s.tables.size) :
    (s.rawSet id (.string k) v).rawGet i (.string k') =
      if i = id ∧ k' = k then v else s.rawGet i (.string k') := by
  simp only [rawGet, rawSet, table_updateTable hid]
  by_cases hi : i = id
  · simp [hi, Table.get_set_string]
  · simp [hi]

theorem rawGet_rawSet_of_ne (h : i ≠ id ∨ k' ≠ k) :
    (s.rawSet id (.string k) v).rawGet i (.string k') = s.rawGet i (.string k') := by
  by_cases hi : i = id
  · subst hi
    have hk : k' ≠ k := h.resolve_left (· rfl)
    simp only [rawGet, rawSet, updateTable, table, Array.getD_eq_getD_getElem?,
      Array.getElem?_modify]
    cases s.tables[i]? with
    | none => rfl
    | some t => simp [Table.get_set_string, hk]
  · rw [rawGet, rawSet, table_updateTable_of_ne hi]
    rfl

/-- After an assignment to a string, any field has what it had or what has been assigned. -/
theorem rawGet_rawSet_cases (s : Store) (id : Nat) (k : Bytes) (v : Value) (i : Nat) (key : Value) :
    (s.rawSet id (.string k) v).rawGet i key = s.rawGet i key ∨
      (s.rawSet id (.string k) v).rawGet i key = v := by
  by_cases hi : i = id
  · subst hi
    simp only [rawGet, rawSet, updateTable, table, Array.getD_eq_getD_getElem?,
      Array.getElem?_modify]
    cases s.tables[i]? with
    | none => exact .inl rfl
    | some t => simpa using Table.get_set_string_cases t k v key
  · rw [rawGet, rawSet, table_updateTable_of_ne hi]
    exact .inl rfl

@[simp] theorem rawGet_rawSet_nil (s : Store) (id : Nat) (k : Bytes) :
    (s.rawSet id (.string k) .nil).rawGet id (.string k) = .nil := by
  by_cases hid : id < s.tables.size
  · rw [rawGet_rawSet hid, if_pos ⟨rfl, rfl⟩]
  · have hnone : (s.rawSet id (.string k) .nil).table id = {} := by
      simp [rawSet, table, Nat.le_of_not_lt hid]
    rw [rawGet, hnone]
    rfl

@[simp] theorem metatable_rawSet (s : Store) (id : Nat) (k : Bytes) (v : Value) (i : Nat) :
    ((s.rawSet id (.string k) v).table i).metatable = (s.table i).metatable := by
  by_cases h : i = id
  · subst h
    simp only [rawSet, updateTable, table, Array.getD_eq_getD_getElem?, Array.getElem?_modify]
    cases s.tables[i]? <;> simp
  · rw [rawSet, table_updateTable_of_ne h]

theorem cell_addCell (s : Store) (v : Value) (i : Nat) :
    (s.addCell v).1.cell i = if i = s.cells.size then v else s.cell i := by
  simp only [addCell, cell, Array.getD_eq_getD_getElem?, Array.getElem?_push]
  split <;> rfl

theorem cell_setCell_of_ne (h : i ≠ id) (s : Store) (v : Value) :
    (s.setCell id v).cell i = s.cell i := by
  have h' : id ≠ i := fun he => h he.symm
  simp [setCell, cell, Array.getD_eq_getD_getElem?, h']

theorem cell_setCell (hid : id < s.cells.size) (v : Value) : (s.setCell id v).cell id = v := by
  simp [setCell, cell, Array.getD_eq_getD_getElem?, hid]

theorem closure_addClosure (s : Store) (c : Closure) (i : Nat) :
    (s.addClosure c).1.closure i = if i = s.closures.size then c else s.closure i := by
  simp only [addClosure, closure, Array.getD_eq_getD_getElem?, Array.getElem?_push]
  split <;> rfl

/-- A field that is there is what indexing finds. -/
theorem index_field (hv : s.rawGet id (.string k) = v) (hnil : v ≠ .nil) :
    s.index (.table id) (.string k) = .value v := by
  have hget : (s.table id).get (.string k) = v := hv
  show s.indexThrough (1999 + 1) _ _ = _
  rw [indexThrough, hget]
  cases v with
  | nil => exact absurd rfl hnil
  | _ => rfl

theorem table_of_le (h : s.tables.size ≤ id) : s.table id = {} := by
  rw [table, Array.getD_eq_getD_getElem?, Array.getElem?_eq_none h]
  rfl

/-- What a store has, another one has as well; that one may have more. -/
structure Extends (s s' : Store) : Prop where
  globals : s'.globals = s.globals
  metatables : s'.metatables = s.metatables
  tables : ∀ (id : Nat) t, s.tables[id]? = some t → s'.tables[id]? = some t
  cells : ∀ (id : Nat) v, s.cells[id]? = some v → s'.cells[id]? = some v
  closures : ∀ (id : Nat) c, s.closures[id]? = some c → s'.closures[id]? = some c

namespace Extends

variable {s' s'' : Store}

theorem refl (s : Store) : Extends s s := ⟨rfl, rfl, fun _ _ h => h, fun _ _ h => h, fun _ _ h => h⟩

theorem trans (h : Extends s s') (h' : Extends s' s'') : Extends s s'' where
  globals := h'.globals.trans h.globals
  metatables := h'.metatables.trans h.metatables
  tables id t ht := h'.tables id t (h.tables id t ht)
  cells id v hv := h'.cells id v (h.cells id v hv)
  closures id c hc := h'.closures id c (h.closures id c hc)

theorem getElem?_push {α : Type} {as : Array α} {i : Nat} {a : α} (h : as[i]? = some a) (b : α) :
    (as.push b)[i]? = some a := by
  obtain ⟨hi, rfl⟩ := Array.getElem?_eq_some_iff.mp h
  rw [Array.getElem?_push_lt hi]

theorem addTable (s : Store) (t : Table) : Extends s (s.addTable t).1 :=
  { refl s with tables := fun _ _ h => getElem?_push h t }

theorem addCell (s : Store) (v : Value) : Extends s (s.addCell v).1 :=
  { refl s with cells := fun _ _ h => getElem?_push h v }

theorem addClosure (s : Store) (c : Closure) : Extends s (s.addClosure c).1 :=
  { refl s with closures := fun _ _ h => getElem?_push h c }

theorem table (h : Extends s s') (hid : id < s.tables.size) : s'.table id = s.table id := by
  simp only [Store.table, Array.getD_eq_getD_getElem?, h.tables id _ (Array.getElem?_eq_getElem hid),
    Array.getElem?_eq_getElem hid]

theorem cell (h : Extends s s') (hid : id < s.cells.size) : s'.cell id = s.cell id := by
  simp only [Store.cell, Array.getD_eq_getD_getElem?, h.cells id _ (Array.getElem?_eq_getElem hid),
    Array.getElem?_eq_getElem hid]

theorem closure (h : Extends s s') (hid : id < s.closures.size) : s'.closure id = s.closure id := by
  simp only [Store.closure, Array.getD_eq_getD_getElem?, h.closures id _ (Array.getElem?_eq_getElem hid),
    Array.getElem?_eq_getElem hid]

/-- What is known of a variable holds of it later on; it is nil before it is there. -/
theorem cell_eq (h : Extends s s') (hv : s.cell id = v) (hnil : v ≠ .nil) : s'.cell id = v := by
  rw [← hv]
  refine h.cell (Nat.lt_of_not_le fun hid => hnil ?_)
  rw [← hv, Store.cell, Array.getD_eq_getD_getElem?, Array.getElem?_eq_none hid]
  rfl

/-- What a metatable leads to is still there: a table that is not there has no fields, so nothing is found
through it. -/
theorem event (h : Extends s s') {fuel m : Nat} {v k x : Value} {nothing nothing' : Outcome}
    (hstays : ∀ f, s.indexThrough fuel f k = .value x → s'.indexThrough fuel f k = .value x)
    (hnothing : nothing ≠ .value x)
    (hfound : (match (s.table m).getKey (.string indexEvent) with
      | .nil => nothing
      | f => if f.isFunction then .invoke f [v, k] else s.indexThrough fuel f k) = .value x) :
    (match (s'.table m).getKey (.string indexEvent) with
      | .nil => nothing'
      | f => if f.isFunction then .invoke f [v, k] else s'.indexThrough fuel f k) = .value x := by
  have hm : m < s.tables.size := by
    refine Nat.lt_of_not_le fun hm => hnothing ?_
    rwa [table_of_le hm] at hfound
  rw [h.table hm]
  generalize (s.table m).getKey (.string indexEvent) = f at hfound ⊢
  cases f with
  | nil => exact absurd hfound hnothing
  | closure id => cases hfound
  | native fn => cases hfound
  | _ => exact hstays _ hfound

theorem indexThrough (h : Extends s s') {fuel : Nat} {v k x : Value}
    (hv : s.indexThrough fuel v k = .value x) (hx : x ≠ .nil) : s'.indexThrough fuel v k = .value x := by
  induction fuel generalizing v with
  | zero => cases hv
  | succ fuel ih =>
    cases v with
    | table id =>
      have hid : id < s.tables.size := by
        refine Nat.lt_of_not_le fun hid => hx ?_
        rw [Store.indexThrough, table_of_le hid, Table.get_empty] at hv
        exact (Outcome.value.inj hv).symm
      rw [Store.indexThrough] at hv ⊢
      rw [h.table hid]
      generalize (s.table id).get k = found at hv ⊢
      cases found with
      | nil =>
        cases hm : (s.table id).metatable with
        | none =>
          rw [hm] at hv
          exact hv
        | some m =>
          rw [hm] at hv
          exact h.event (fun _ => ih) (fun hn => hx (Outcome.value.inj hn).symm) hv
      | _ => exact hv
    | host object => exact hv
    | _ =>
      unfold Store.indexThrough metafield metatable? at hv ⊢
      dsimp only at hv ⊢
      rw [h.metatables]
      generalize Option.map _ (List.find? _ s.metatables) = found at hv ⊢
      cases found with
      | none => cases hv
      | some m => exact h.event (fun _ => ih) (fun hn => by cases hn) hv

/-- What indexing finds is still found. -/
theorem index (h : Extends s s') {v k x : Value} (hv : s.index v k = .value x) (hx : x ≠ .nil) :
    s'.index v k = .value x := h.indexThrough hv hx

end Extends

/-- All strings have the same methods. -/
theorem index_string {x : Value} {b : Bytes} (h : s.index (.string b) (.string k) = .value x)
    (b' : Bytes) : s.index (.string b') (.string k) = .value x := by
  unfold index indexThrough at h ⊢
  dsimp only at h ⊢
  have hsame : s.metafield (.string b') indexEvent = s.metafield (.string b) indexEvent := rfl
  rw [hsame]
  cases hf : s.metafield (.string b) indexEvent with
  | nil =>
    rw [hf] at h
    cases h
  | closure id =>
    rw [hf] at h
    cases h
  | native fn =>
    rw [hf] at h
    cases h
  | _ =>
    rw [hf] at h
    exact h

/-- A table without a metatable is indexed as it is. -/
theorem index_plain (hplain : (s.table id).metatable = none) (k : Value) :
    s.index (.table id) k = .value (s.rawGet id k) := by
  show s.indexThrough (1999 + 1) _ _ = _
  rw [indexThrough, rawGet, hplain]
  cases (s.table id).get k <;> rfl

theorem assign_plain (hplain : (s.table id).metatable = none) :
    s.assign (.table id) (.string k) v = .stored (s.rawSet id (.string k) v) := by
  show s.assignThrough (1999 + 1) _ _ _ = _
  rw [assignThrough, hplain]
  rfl

end Store

end KernelConfig.Script
