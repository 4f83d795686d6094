import KernelConfig.Namespace.Plan
import KernelConfig.Proofs.Script.Prepared
import KernelConfig.Proofs.Text.Utf8

/-!
Handles: what defining the bindings of a plan does to a store, and which handle a global stands for
afterwards.
-/

set_option autoImplicit false

namespace KernelConfig.Script.Prelude

open Namespace (Binding)

/-- What scripts know a symbol by. -/
def handleTable (l : Places) (symbol : String) : Table :=
  ({ metatable := some l.symbol } : Table).set (.text "_name") (.text symbol)

def addHandle (l : Places) (s : Store) (symbol : String) : Store :=
  ((s.addTable {}).1.updateTable s.tables.size fun t => { t with metatable := some l.symbol }).rawSet
    s.tables.size (.text "_name") (.text symbol)

def bindGlobal (l : Places) (handle : Nat) (s : Store) (name : String) : Store :=
  s.rawSet l.globals (.text name) (.table handle)

/-- A new handle for the symbol of a binding, under the binding's globals. -/
def define (l : Places) (s : Store) (b : Binding) : Store :=
  b.identifiers.foldl (bindGlobal l s.tables.size) (addHandle l s b.symbol)

/-- A name that the prelude does not depend on. -/
def IsFree (name : String) : Prop := ∀ key ∈ fixedKeys, bytes key ≠ bytes name

instance (name : String) : Decidable (IsFree name) :=
  inferInstanceAs (Decidable (∀ key ∈ fixedKeys, bytes key ≠ bytes name))

section

variable {l : Places} {s : Store}

@[simp] theorem size_addHandle (l : Places) (s : Store) (symbol : String) :
    (addHandle l s symbol).tables.size = s.tables.size + 1 := by
  simp [addHandle, Store.rawSet, Store.addTable]

theorem table_addHandle (l : Places) (s : Store) (symbol : String) (i : Nat) :
    (addHandle l s symbol).table i =
      if i = s.tables.size then handleTable l symbol else s.table i := by
  have hsize : s.tables.size < (s.addTable {}).1.tables.size := by simp [Store.addTable]
  have hsize' : s.tables.size < ((s.addTable {}).1.updateTable s.tables.size fun t =>
      { t with metatable := some l.symbol }).tables.size := by simpa using hsize
  rw [addHandle, Store.rawSet, Store.table_updateTable hsize', Store.table_updateTable hsize,
    Store.table_addTable]
  split <;> rfl

theorem Prepared.symbol_ne_io (hp : Prepared l s) : l.symbol ≠ l.io :=
  fun h => hp.symbol l.io (by simp) h.symm

theorem kept_addHandle (hp : Prepared l s) (symbol : String) : Kept l s (addHandle l s symbol) := by
  have hnew : s.tables.size ∉ l.tables := fun h => Nat.lt_irrefl _ (hp.tables _ h)
  refine ((hp.addTable (Table.inward_empty _)).trans (.setMetatable _ hnew hp.symbol_ne_io)).trans
    (.rawSet l _ _ ?_ (inward_text _ symbol))
  decide

theorem kept_bindGlobal (l : Places) (s : Store) {handle : Nat} (hhandle : handle ≠ l.io)
    {name : String} (h : IsFree name) : Kept l s (bindGlobal l handle s name) :=
  .rawSet l s _ h (inward_table hhandle)

theorem kept_foldl_bindGlobal (l : Places) (s : Store) {handle : Nat} (hhandle : handle ≠ l.io)
    {names : List String} (h : ∀ name ∈ names, IsFree name) :
    Kept l s (names.foldl (bindGlobal l handle) s) := by
  induction names generalizing s with
  | nil => exact .refl l s
  | cons name rest ih =>
    rw [List.forall_mem_cons] at h
    exact (kept_bindGlobal l s hhandle h.1).trans (ih _ h.2)

theorem kept_define (hp : Prepared l s) {b : Binding} (h : ∀ name ∈ b.identifiers, IsFree name) :
    Kept l s (define l s b) :=
  (kept_addHandle hp b.symbol).trans (kept_foldl_bindGlobal l _ (hp.ne_io (Nat.le_refl _)) h)

theorem kept_foldl_define (hp : Prepared l s) {bs : List Binding}
    (h : ∀ b ∈ bs, ∀ name ∈ b.identifiers, IsFree name) : Kept l s (bs.foldl (define l) s) := by
  induction bs generalizing s with
  | nil => exact .refl l s
  | cons b rest ih =>
    rw [List.forall_mem_cons] at h
    have hk := kept_define hp h.1
    exact hk.trans (ih (hp.of_kept hk) h.2)

/-! ### What is left alone -/

theorem table_bindGlobal {i : Nat} (hi : i ≠ l.globals) (handle : Nat) (s : Store) (name : String) :
    (bindGlobal l handle s name).table i = s.table i :=
  Store.table_updateTable_of_ne hi _

theorem table_foldl_bindGlobal {i : Nat} (hi : i ≠ l.globals) (handle : Nat) (s : Store)
    (names : List String) : (names.foldl (bindGlobal l handle) s).table i = s.table i := by
  induction names generalizing s with
  | nil => rfl
  | cons name rest ih => rw [List.foldl_cons, ih, table_bindGlobal hi]

@[simp] theorem size_bindGlobal (l : Places) (handle : Nat) (s : Store) (name : String) :
    (bindGlobal l handle s name).tables.size = s.tables.size := by
  simp [bindGlobal, Store.rawSet]

@[simp] theorem size_foldl_bindGlobal (l : Places) (handle : Nat) (s : Store) (names : List String) :
    (names.foldl (bindGlobal l handle) s).tables.size = s.tables.size := by
  induction names generalizing s with
  | nil => rfl
  | cons name rest ih => rw [List.foldl_cons, ih, size_bindGlobal]

theorem table_define {i : Nat} (hi : i < s.tables.size) (hne : i ≠ l.globals) (b : Binding) :
    (define l s b).table i = s.table i := by
  rw [define, table_foldl_bindGlobal hne, table_addHandle, if_neg (Nat.ne_of_lt hi)]

@[simp] theorem size_define (l : Places) (s : Store) (b : Binding) :
    (define l s b).tables.size = s.tables.size + 1 := by
  simp [define]

@[simp] theorem size_foldl_define (l : Places) (s : Store) (bs : List Binding) :
    (bs.foldl (define l) s).tables.size = s.tables.size + bs.length := by
  induction bs generalizing s with
  | nil => rfl
  | cons b rest ih =>
    rw [List.foldl_cons, ih, size_define, List.length_cons]
    omega

theorem table_foldl_define {i : Nat} (hi : i < s.tables.size) (hne : i ≠ l.globals)
    (bs : List Binding) : (bs.foldl (define l) s).table i = s.table i := by
  induction bs generalizing s with
  | nil => rfl
  | cons b rest ih =>
    rw [List.foldl_cons, ih (by simp; omega), table_define hi hne]

/-! ### What a global stands for -/

theorem rawGet_foldl_bindGlobal (hg : l.globals < s.tables.size) (handle : Nat) (names : List String)
    (id : String) : (names.foldl (bindGlobal l handle) s).rawGet l.globals (.text id) =
      if id ∈ names then .table handle else s.rawGet l.globals (.text id) := by
  induction names generalizing s with
  | nil => simp
  | cons name rest ih =>
    rw [List.foldl_cons, ih (by simpa using hg), bindGlobal, Value.text, Value.text,
      Store.rawGet_rawSet hg]
    by_cases hname : id = name
    · subst hname
      simp
    · have hbytes : bytes id ≠ bytes name := fun h => hname (Text.utf8_injective h)
      simp [hname, hbytes]

theorem rawGet_define (hp : Prepared l s) (b : Binding) (id : String) :
    (define l s b).rawGet l.globals (.text id) =
      if id ∈ b.identifiers then .table s.tables.size else s.rawGet l.globals (.text id) := by
  have hg : l.globals < s.tables.size := hp.tables l.globals (by simp [Places.tables])
  have hg' : l.globals < (addHandle l s b.symbol).tables.size := by
    rw [size_addHandle]
    omega
  have hsame : (addHandle l s b.symbol).rawGet l.globals (.text id) =
      s.rawGet l.globals (.text id) := by
    rw [Store.rawGet, table_addHandle, if_neg (Nat.ne_of_lt hg)]
    rfl
  rw [define, rawGet_foldl_bindGlobal hg', hsame]

/-- Bindings leave the globals alone that they do not generate. -/
theorem rawGet_foldl_define (hp : Prepared l s) {bs : List Binding} {id : String}
    (hfree : ∀ b ∈ bs, ∀ name ∈ b.identifiers, IsFree name) (hid : ∀ b ∈ bs, id ∉ b.identifiers) :
    (bs.foldl (define l) s).rawGet l.globals (.text id) = s.rawGet l.globals (.text id) := by
  induction bs generalizing s with
  | nil => rfl
  | cons b rest ih =>
    rw [List.forall_mem_cons] at hfree hid
    rw [List.foldl_cons, ih (hp.of_kept (kept_define hp hfree.1)) hfree.2 hid.2,
      rawGet_define hp, if_neg hid.1]

/-- After the bindings have been defined, one handle for the symbol of a binding stands under all
globals of it that no later binding generates again. -/
theorem denotes_of_last (hp : Prepared l s) (before : List Binding) (b : Binding)
    (after : List Binding)
    (hfree : ∀ b' ∈ before ++ b :: after, ∀ name ∈ b'.identifiers, IsFree name) :
    ∃ handle, ((before ++ b :: after).foldl (define l) s).table handle = handleTable l b.symbol ∧
      ∀ id ∈ b.identifiers, (∀ b' ∈ after, id ∉ b'.identifiers) →
        ((before ++ b :: after).foldl (define l) s).rawGet l.globals (.text id) = .table handle := by
  simp only [List.mem_append, List.mem_cons, or_imp, forall_and, forall_eq] at hfree
  obtain ⟨hbefore, hb, hafter⟩ := hfree
  rw [List.foldl_append, List.foldl_cons]
  have hk := kept_foldl_define hp hbefore
  have hp₁ := hp.of_kept hk
  have hg : l.globals < s.tables.size := hp.tables l.globals (by simp [Places.tables])
  have hsize := hk.tables
  generalize before.foldl (define l) s = s₁ at hp₁ hsize ⊢
  have hp₂ := hp₁.of_kept (kept_define hp₁ hb)
  have hne : s₁.tables.size ≠ l.globals := by omega
  refine ⟨s₁.tables.size, ?_, fun id hid hlast => ?_⟩
  · rw [table_foldl_define (by simp) hne, define, table_foldl_bindGlobal hne, table_addHandle,
      if_pos rfl]
  · rw [rawGet_foldl_define hp₂ hafter hlast, rawGet_define hp₁, if_pos hid]

/-! ### What handles can do -/

theorem metatable_handleTable (l : Places) (symbol : String) :
    (handleTable l symbol).metatable = some l.symbol := Table.metatable_set_string _ _ _

/-- All texts have the methods of the library for strings. -/
theorem Prepared.index_gsub (hp : Prepared l s) :
    s.index (.text "") (.text "gsub") = .value (.native .stringGsub) := by
  have hmeta : s.metafield (.string (bytes "")) indexEvent = .table l.strings := by
    have hfield := hp.fields (l.ofStrings, "__index", .table l.strings) (by simp [Places.fields])
    simp only [Store.metafield, Store.metatable?, hp.metatables]
    exact hfield
  have hgsub := hp.fields (l.strings, "gsub", .native .stringGsub) (by simp [Places.fields])
  show s.indexThrough (1998 + 1 + 1) (.string (bytes "")) (.string (bytes "gsub")) = _
  have hget : (s.table l.strings).get (.string (bytes "gsub")) = .native .stringGsub := hgsub
  simp only [Store.indexThrough, hmeta, Value.isFunction, Bool.false_eq_true, if_false, hget]

theorem lt_of_handleTable {handle : Nat} {symbol : String} (h : s.table handle = handleTable l symbol) :
    handle < s.tables.size := by
  refine Nat.lt_of_not_le fun hle => ?_
  have hmetatable := congrArg Table.metatable ((Store.table_of_le hle).symm.trans h)
  rw [metatable_handleTable] at hmetatable
  cases hmetatable

/-- A handle that is called is handed to the function for it. -/
theorem callee_handle (hcall : s.getText l.symbol "__call" = .closure l.call) {handle : Nat}
    {symbol : String} (h : s.table handle = handleTable l symbol) (args : List Value) :
    s.callee 100 (.table handle) args = some (.closure l.call, .table handle :: args, 1) := by
  have hfield : s.metafield (.table handle) (bytes "__call") = .closure l.call := by
    simp only [Store.metafield, Store.metatable?, h, metatable_handleTable]
    exact hcall
  show s.callee (98 + 1 + 1) (.table handle) args = _
  simp only [Store.callee, hfield]
  rfl

/-- Handles have the methods of the table that is their metatable. -/
theorem Prepared.index_set (hp : Prepared l s) {handle : Nat} {symbol : String}
    (h : s.table handle = handleTable l symbol) :
    s.index (.table handle) (.text "set") = .value (.closure l.set) := by
  have hset := hp.fields (l.symbol, "set", .closure l.set) (by simp [Places.fields])
  have hindex := hp.fields (l.symbol, "__index", .table l.symbol) (by simp [Places.fields])
  have hown : (s.table handle).get (.string (bytes "set")) = .nil := by
    have hne : bytes "set" ≠ bytes "_name" := by decide
    rw [h, handleTable, Value.text, Table.get_set_string, if_neg hne]
    rfl
  have hmetatable : (s.table handle).metatable = some l.symbol := by rw [h, metatable_handleTable]
  have hevent : (s.table l.symbol).getKey (.string indexEvent) = .table l.symbol := hindex
  have hget : (s.table l.symbol).get (.string (bytes "set")) = .closure l.set := hset
  show s.indexThrough (1998 + 1 + 1) (.table handle) (.string (bytes "set")) = _
  simp only [Store.indexThrough, hown, hmetatable, hevent, Value.isFunction, Bool.false_eq_true, if_false,
    hget]

end

end KernelConfig.Script.Prelude
