import Mathlib.Tactic.Tauto
import KernelConfig.Proofs.Script.Confined
import KernelConfig.Proofs.Script.PreludeCode

/-!
Prepared stores: what the prelude leaves for the functions that prepare a script, and which changes of
a store leave it alone.
-/

set_option autoImplicit false

namespace KernelConfig.Script

/-- A function of the prelude, by its place there, with the changing that it shares. -/
structure Store.HasFunction (s : Store) (id index : Nat) (upvalues : List Nat) : Prop where
  bound : id < s.closures.size
  known : Prelude.Known (s.closure id).chunk
  index : (s.closure id).index = index
  upvalues : (s.closure id).upvalues.toList = upvalues

instance (s : Store) (id index : Nat) (upvalues : List Nat) :
    Decidable (s.HasFunction id index upvalues) :=
  decidable_of_iff (id < s.closures.size ∧ Prelude.Known (s.closure id).chunk ∧
      (s.closure id).index = index ∧ (s.closure id).upvalues.toList = upvalues)
    ⟨fun h => ⟨h.1, h.2.1, h.2.2.1, h.2.2.2⟩, fun h => ⟨h.bound, h.known, h.index, h.upvalues⟩⟩

theorem Store.HasFunction.of_closures {s s' : Store} {id index : Nat} {upvalues : List Nat}
    (h : s.HasFunction id index upvalues) (hs : s'.closures = s.closures) :
    s'.HasFunction id index upvalues := by
  have hclosure : s'.closure id = s.closure id := by rw [Store.closure, Store.closure, hs]
  exact ⟨hs ▸ h.bound, hclosure ▸ h.known, hclosure ▸ h.index, hclosure ▸ h.upvalues⟩

theorem Store.HasFunction.of_extends {s s' : Store} {id index : Nat} {upvalues : List Nat}
    (h : s.HasFunction id index upvalues) (hs : s.Extends s') : s'.HasFunction id index upvalues := by
  have hc := hs.closure h.bound
  have hbound := (Array.getElem?_eq_some_iff.mp (hs.closures id _ (Array.getElem?_eq_getElem h.bound))).1
  exact ⟨hbound, hc ▸ h.known, hc ▸ h.index, hc ▸ h.upvalues⟩

namespace Prelude

/-- Where things are that the prelude has made or found. -/
structure Places where
  globals : Nat
  symbol : Nat
  coroutine : Nat
  /-- The library for strings, and the metatable that all strings have. -/
  strings : Nat
  ofStrings : Nat
  /-- The libraries that are loaded, and those that a sandbox restricts. -/
  loaded : Nat
  package : Nat
  os : Nat
  debug : Nat
  io : Nat
  /-- Shared variables: the globals, what handles use, the message of the deadline, and others that
  replace the protected calls. -/
  env : Nat
  info : Nat
  traceback : Nat
  origin : Nat
  setFrom : Nat
  setter : Nat
  expired : Nat
  reraise : Nat
  rawPcall : Nat
  rawXpcall : Nat
  guard : Nat
  sethook : Nat
  findOrigin : Nat
  setFromHandle : Nat
  new : Nat
  set : Nat
  call : Nat
  wrap : Nat
  bindSetter : Nat
  run : Nat
  guardCalls : Nat
  setDeadline : Nat
  define : Nat

namespace Places

variable (l : Places)

/-- Tables that have no metatable. -/
def plain : List Nat := [l.globals, l.coroutine]

def tables : List Nat :=
  [l.globals, l.coroutine, l.symbol, l.package, l.os, l.debug, l.io, l.strings, l.ofStrings]

def fields : List (Nat × String × Value) :=
  [(l.globals, "ipairs", .native .ipairs), (l.globals, "setmetatable", .native .setmetatable),
    (l.globals, "error", .native .error), (l.globals, "Symbol", .table l.symbol),
    (l.globals, "_G", .table l.globals), (l.globals, "coroutine", .table l.coroutine),
    (l.symbol, "new", .closure l.new), (l.symbol, "__newindex", .nil),
    (l.globals, "package", .table l.package), (l.globals, "os", .table l.os),
    (l.globals, "debug", .table l.debug), (l.symbol, "__index", .table l.symbol),
    (l.symbol, "set", .closure l.set), (l.symbol, "__call", .closure l.call),
    (l.ofStrings, "__index", .table l.strings), (l.strings, "gsub", .native .stringGsub)]

/-- Where the library has values that lead out of a script. -/
def exits : List (Nat × String) :=
  ["io", "dofile", "loadfile"].map (l.globals, ·) ++
    ["execute", "remove", "rename", "exit", "tmpname"].map (l.os, ·) ++
    ["loadlib"].map (l.package, ·) ++
    ["sethook", "getupvalue", "setupvalue", "upvaluejoin", "getlocal", "setlocal",
      "getregistry"].map (l.debug, ·) ++ [(l.loaded, "io")]

def cells : List (Nat × Value) :=
  [(l.env, .table l.globals), (l.rawXpcall, .native .xpcall), (l.guard, .closure l.guardCalls),
    (l.sethook, .native .debugSethook), (l.info, .native .debugGetinfo),
    (l.traceback, .native .debugTraceback), (l.origin, .closure l.findOrigin),
    (l.setFrom, .closure l.setFromHandle)]

def functions : List (Nat × Nat × List Nat) :=
  [(l.new, 3, [l.env]), (l.wrap, 10, [l.env]), (l.bindSetter, 12, [l.setter]),
    (l.run, 13, [l.rawXpcall, l.traceback, l.env]),
    (l.guardCalls, 16, [l.env, l.reraise, l.rawPcall, l.rawXpcall, l.sethook]),
    (l.setDeadline, 24, [l.expired, l.env, l.guard, l.sethook]), (l.define, 26, [l.env]),
    (l.findOrigin, 1, [l.info, l.traceback]), (l.setFromHandle, 2, [l.origin, l.setter]),
    (l.set, 7, [l.setFrom]), (l.call, 8, [l.setFrom])]

/-- Variables that change while a script is being prepared. -/
def changing : List Nat := [l.setter, l.expired]

end Places

/-- The keys that are not to be assigned to. -/
def fixedKeys : List String :=
  ["ipairs", "setmetatable", "error", "Symbol", "_G", "coroutine", "new", "__newindex", "package", "os",
    "debug", "__index", "set", "__call", "gsub", "symbol_set"]

structure Prepared (l : Places) (s : Store) : Prop where
  globals : s.globals = l.globals
  tables : ∀ id ∈ l.tables, id < s.tables.size
  plain : ∀ id ∈ l.plain, (s.table id).metatable = none
  fields : ∀ e ∈ l.fields, s.getText e.1 e.2.1 = e.2.2
  cells : ∀ e ∈ l.cells, e.1 < s.cells.size ∧ s.cell e.1 = e.2
  functions : ∀ e ∈ l.functions, s.HasFunction e.1 e.2.1 e.2.2
  changing : ∀ id ∈ l.changing, id < s.cells.size ∧ id ∉ l.cells.map (·.1)
  setter : l.setter ≠ l.expired
  metatables : s.metatables = [("string", l.ofStrings)]
  symbol : ∀ id ∈ l.io :: l.plain, id ≠ l.symbol
  loaded : s.loaded = l.loaded
  confined : Confined l.io l.exits s

/-- A store is looked through for what the prelude has to leave in it. -/
def isPrepared (l : Places) (s : Store) : Bool :=
  s.globals = l.globals && (∀ id ∈ l.tables, id < s.tables.size) &&
    (∀ id ∈ l.plain, (s.table id).metatable = none) &&
    (∀ e ∈ l.fields, s.getText e.1 e.2.1 = e.2.2) &&
    (∀ e ∈ l.cells, e.1 < s.cells.size ∧ s.cell e.1 = e.2) &&
    (∀ e ∈ l.functions, s.HasFunction e.1 e.2.1 e.2.2) &&
    (∀ id ∈ l.changing, id < s.cells.size ∧ id ∉ l.cells.map (·.1)) &&
    l.setter ≠ l.expired && s.metatables = [("string", l.ofStrings)] &&
    (∀ id ∈ l.io :: l.plain, id ≠ l.symbol) && s.loaded = l.loaded && s.isConfined l.io l.exits

theorem prepared_of_isPrepared {l : Places} {s : Store} (h : isPrepared l s = true) : Prepared l s := by
  simp only [isPrepared, Bool.and_eq_true, decide_eq_true_eq] at h
  obtain ⟨⟨⟨⟨⟨⟨⟨⟨⟨⟨⟨hglobals, htables⟩, hplain⟩, hfields⟩, hcells⟩, hfunctions⟩, hchanging⟩, hsetter⟩,
    hmetatables⟩, hsymbol⟩, hloaded⟩, hconfined⟩ := h
  exact ⟨hglobals, htables, hplain, hfields, hcells, hfunctions, hchanging, hsetter, hmetatables, hsymbol,
    hloaded, confined_of_isConfined hconfined⟩

/-- What is left of a store when another one has more in it. -/
structure Kept (l : Places) (s s' : Store) : Prop where
  globals : s'.globals = s.globals
  tables : s.tables.size ≤ s'.tables.size
  plain : ∀ id ∈ l.plain, (s.table id).metatable = none → (s'.table id).metatable = none
  fields : ∀ id ∈ l.tables, ∀ k ∈ fixedKeys, s'.getText id k = s.getText id k
  cellsSize : s.cells.size ≤ s'.cells.size
  cells : ∀ id ≠ l.expired, id < s.cells.size → s'.cell id = s.cell id
  closuresSize : s.closures.size ≤ s'.closures.size
  closures : ∀ id < s.closures.size, s'.closure id = s.closure id
  harmless : Harmless l.io s s'

variable {l : Places} {s s' : Store}

theorem ne_expired {id : Nat} (h : id ∉ l.changing) : id ≠ l.expired :=
  fun he => h (by simp [Places.changing, he])

theorem Kept.hasFunction (hk : Kept l s s') {id index : Nat} {upvalues : List Nat}
    (h : s.HasFunction id index upvalues) : s'.HasFunction id index upvalues := by
  have hc := hk.closures id h.bound
  exact ⟨Nat.lt_of_lt_of_le h.bound hk.closuresSize, hc ▸ h.known, hc ▸ h.index, hc ▸ h.upvalues⟩

namespace Prepared

theorem of_kept (h : Prepared l s) (hk : Kept l s s') : Prepared l s' where
  globals := hk.globals.trans h.globals
  tables id hid := Nat.lt_of_lt_of_le (h.tables id hid) hk.tables
  plain id hid := hk.plain id hid (h.plain id hid)
  fields e he := by
    have hin : e.1 ∈ l.tables ∧ e.2.1 ∈ fixedKeys := by
      revert e
      simp [Places.fields, Places.tables, fixedKeys]
    rw [hk.fields e.1 hin.1 e.2.1 hin.2]
    exact h.fields e he
  cells e he := by
    obtain ⟨hbound, hcell⟩ := h.cells e he
    refine ⟨Nat.lt_of_lt_of_le hbound hk.cellsSize, ?_⟩
    have hfixed : e.1 ≠ l.expired := fun hv =>
      (h.changing l.expired (by simp [Places.changing])).2 (hv ▸ List.mem_map_of_mem he)
    rw [hk.cells e.1 hfixed hbound, hcell]
  functions e he := hk.hasFunction (h.functions e he)
  changing id hid :=
    ⟨Nat.lt_of_lt_of_le (h.changing id hid).1 hk.cellsSize, (h.changing id hid).2⟩
  setter := h.setter
  metatables := hk.harmless.others.trans h.metatables
  symbol := h.symbol
  loaded := hk.harmless.loaded.trans h.loaded
  confined := h.confined.of_harmless hk.harmless

end Prepared

/-- A fixed field, as indexing finds it. -/
theorem Prepared.index (h : Prepared l s) {id : Nat} {k : String}
    {v : Value} (he : (id, k, v) ∈ l.fields) (hv : v ≠ .nil) :
    s.index (.table id) (.string (bytes k)) = .value v :=
  Store.index_field (h.fields _ he) hv

theorem Prepared.env (h : Prepared l s) : s.cell l.env = .table l.globals :=
  (h.cells (l.env, _) (by simp [Places.cells])).2

namespace Kept

variable {s'' : Store}

theorem refl (l : Places) (s : Store) : Kept l s s where
  globals := rfl
  tables := Nat.le_refl _
  plain _ _ h := h
  fields _ _ _ _ := rfl
  cellsSize := Nat.le_refl _
  cells _ _ _ := rfl
  closuresSize := Nat.le_refl _
  closures _ _ := rfl
  harmless := .refl l.io s

theorem trans (h : Kept l s s') (h' : Kept l s' s'') : Kept l s s'' where
  globals := h'.globals.trans h.globals
  tables := Nat.le_trans h.tables h'.tables
  plain id hid hp := h'.plain id hid (h.plain id hid hp)
  fields id hid k hk := (h'.fields id hid k hk).trans (h.fields id hid k hk)
  cellsSize := Nat.le_trans h.cellsSize h'.cellsSize
  cells id hid hb :=
    (h'.cells id hid (Nat.lt_of_lt_of_le hb h.cellsSize)).trans (h.cells id hid hb)
  closuresSize := Nat.le_trans h.closuresSize h'.closuresSize
  closures id hb :=
    (h'.closures id (Nat.lt_of_lt_of_le hb h.closuresSize)).trans (h.closures id hb)
  harmless := h.harmless.trans h'.harmless

theorem addCell (l : Places) (s : Store) (v : Value) : Kept l s (s.addCell v).1 :=
  { refl l s with
    cellsSize := by simp [Store.addCell]
    cells := fun id _ hb => by rw [Store.cell_addCell, if_neg (Nat.ne_of_lt hb)]
    harmless := .of_tables rfl rfl rfl }

/-- The message of the deadline is the one variable that changes. -/
theorem setExpired (l : Places) (s : Store) (v : Value) : Kept l s (s.setCell l.expired v) :=
  { refl l s with
    cellsSize := by simp [Store.setCell]
    cells := fun i hi _ => Store.cell_setCell_of_ne hi s v
    harmless := .of_tables rfl rfl rfl }

theorem addClosure (l : Places) (s : Store) (c : Closure) : Kept l s (s.addClosure c).1 :=
  { refl l s with
    closuresSize := by simp [Store.addClosure]
    closures := fun id hb => by rw [Store.closure_addClosure, if_neg (Nat.ne_of_lt hb)]
    harmless := .of_tables rfl rfl rfl }

/-- Assigning a value that leads nowhere to any key that is not fixed. -/
theorem rawSet (l : Places) (s : Store) (id : Nat) {k : Bytes} (hk : ∀ key ∈ fixedKeys, bytes key ≠ k)
    {v : Value} (hv : Inward l.io v) : Kept l s (s.rawSet id (.string k) v) :=
  { refl l s with
    tables := by simp [Store.rawSet]
    plain := fun id _ hp => by simpa using hp
    fields := fun id _ key hkey => Store.rawGet_rawSet_of_ne (.inr (hk key hkey))
    harmless := .rawSet s id k hv }

/-- A table that the prelude knows nothing of gets a metatable. -/
theorem setMetatable (s : Store) {id m : Nat} (hid : id ∉ l.tables) (hm : m ≠ l.io) :
    Kept l s (s.updateTable id fun t => { t with metatable := some m }) := by
  have hsame : ∀ i ∈ l.tables,
      (s.updateTable id fun t => { t with metatable := some m }).table i = s.table i := fun i hi =>
    Store.table_updateTable_of_ne (fun he : i = id => hid (he ▸ hi)) _
  refine { refl l s with
    tables := by simp, plain := fun i hi hp => ?_, fields := fun i hi k _ => ?_
    harmless := .setMetatable s id hm }
  · rw [hsame i (by simp only [Places.plain, Places.tables, List.mem_cons] at hi ⊢; tauto)]
    exact hp
  · simp only [Store.getText, Store.rawGet, hsame i hi]

end Kept

/-- Of the variables that change, that of the setter is bound once; nothing else depends on it. -/
theorem Prepared.setSetter (h : Prepared l s) (v : Value) : Prepared l (s.setCell l.setter v) where
  globals := h.globals
  tables := h.tables
  plain := h.plain
  fields := h.fields
  cells e he := by
    have hne : e.1 ≠ l.setter := fun hv =>
      (h.changing l.setter (by simp [Places.changing])).2 (hv ▸ List.mem_map_of_mem he)
    rw [Store.cell_setCell_of_ne hne]
    simpa [Store.setCell] using h.cells e he
  functions e he := (h.functions e he).of_closures rfl
  changing id hid := by simpa [Store.setCell] using h.changing id hid
  setter := h.setter
  metatables := h.metatables
  symbol := h.symbol
  loaded := h.loaded
  confined := h.confined.of_harmless (.of_tables rfl rfl rfl)

/-- The global by which symbols are set is bound once, too. -/
theorem Prepared.setSymbolSet (h : Prepared l s) {v : Value} (hv : Inward l.io v) :
    Prepared l (s.setText l.globals "symbol_set" v) where
  globals := h.globals
  tables id hid := by simpa [Store.setText, Store.rawSet] using h.tables id hid
  plain id hid := by simpa [Store.setText, Value.text] using h.plain id hid
  fields e he := by
    have hne : bytes e.2.1 ≠ bytes "symbol_set" := by
      revert e
      simp only [Places.fields, List.forall_mem_cons]
      decide
    rw [Store.setText, Value.text, Store.getText, Value.text, Store.rawGet_rawSet_of_ne (.inr hne)]
    exact h.fields e he
  cells := h.cells
  functions e he := (h.functions e he).of_closures rfl
  changing := h.changing
  setter := h.setter
  metatables := h.metatables
  symbol := h.symbol
  loaded := h.loaded
  confined := h.confined.of_harmless (.rawSet s _ _ hv)

/-- A function asks the host for something, and raises its errors some functions up. -/
def Wraps (l : Places) (s : Store) (f : Nat) (host level : Value) : Prop :=
  ∃ i j, s.HasFunction f 11 [i, l.env, j] ∧
    ∀ e ∈ [(i, host), (j, level)], e.1 < s.cells.size ∧ e.1 ∉ l.changing ∧ s.cell e.1 = e.2

theorem Kept.wraps (hk : Kept l s s') {f : Nat} {host level : Value} (h : Wraps l s f host level) :
    Wraps l s' f host level := by
  obtain ⟨i, j, hfunction, hcells⟩ := h
  refine ⟨i, j, hk.hasFunction hfunction, fun e he => ?_⟩
  obtain ⟨hbound, hfixed, hcell⟩ := hcells e he
  exact ⟨Nat.lt_of_lt_of_le hbound hk.cellsSize, hfixed,
    (hk.cells e.1 (ne_expired hfixed) hbound).trans hcell⟩

theorem Wraps.of_cells {f : Nat} {host level : Value} (h : Wraps l s f host level)
    (hclosures : s'.closures = s.closures) (hsize : s.cells.size ≤ s'.cells.size)
    (hcells : ∀ i ∉ l.changing, s'.cell i = s.cell i) : Wraps l s' f host level := by
  obtain ⟨i, j, hfunction, hvariables⟩ := h
  refine ⟨i, j, hfunction.of_closures hclosures, fun e he => ?_⟩
  obtain ⟨hbound, hfixed, hcell⟩ := hvariables e he
  exact ⟨Nat.lt_of_lt_of_le hbound hsize, hfixed, (hcells e.1 hfixed).trans hcell⟩

/-- Tables come in behind those that there are. -/
theorem Prepared.moreTables (h : Prepared l s) {ts : Array Table} (hts : ∀ t ∈ ts, t.IsInward l.io) :
    Kept l s { s with tables := s.tables ++ ts } := by
  have hsame : ∀ i ∈ l.tables, ({ s with tables := s.tables ++ ts } : Store).table i = s.table i :=
    fun i hi => by
      simp only [Store.table, Array.getD_eq_getD_getElem?, Array.getElem?_append_left (h.tables i hi)]
  refine { Kept.refl l s with
    tables := by simp, plain := fun i hi hp => ?_, fields := fun i hi k _ => ?_
    harmless := .addTables s hts }
  · rw [hsame i (by simp only [Places.plain, Places.tables, List.mem_cons] at hi ⊢; tauto)]
    exact hp
  · simp only [Store.getText, Store.rawGet, hsame i hi]

theorem Prepared.addTable (h : Prepared l s) {t : Table} (ht : t.IsInward l.io) :
    Kept l s (s.addTable t).1 := by
  have hts : ∀ u ∈ #[t], u.IsInward l.io := by simpa using ht
  have hpush := h.moreTables hts
  rwa [Array.append_singleton] at hpush

/-- A new table is not the io library. -/
theorem Prepared.ne_io (h : Prepared l s) {id : Nat} (hid : s.tables.size ≤ id) : id ≠ l.io := by
  have hio := h.tables l.io (by simp [Places.tables])
  omega

end Prelude

end KernelConfig.Script
