import Mathlib.Data.List.TakeWhile
import KernelConfig.Proofs.Apply.CheckedLines

/-!
Histories: whatever happens to a table, the history of each symbol is the log of the values that it has
taken since it was last reset.
-/

set_option autoImplicit false

namespace KernelConfig

open Dotconfig (Entry)

namespace SymbolTable

variable {t : SymbolTable}

/-- The effect of storing a text as it is, if there is such a symbol. -/
def stored? (t : SymbolTable) (name text source : String) : Option Effect :=
  (t.symbol? name).map fun _ => .write name (.auto text) ⟨source, none⟩

@[simp] theorem stored?_undergo (log : List Effect) (name text source : String) :
    (t.undergo log).stored? name text source = t.stored? name text source := by
  simp [stored?, symbol?_undergo, Function.comp_def]

theorem assignRaw_eq_undergo (hd : t.Distinct) {name : String} {s : Symbol}
    (hs : t.symbol? name = some s) (text source : String) :
    t.assignRaw s text source = t.undergo (t.stored? name text source).toList := by
  rw [assignRaw, Symbol.assignRaw, update_record hd (mem_of_symbol? hs), name_of_symbol? hs]
  simp [stored?, hs]

theorem undergo_clear_of_unknown {name : String} (hs : t.symbol? name = none) :
    t.undergo [.clear name] = t := by
  have hother : ∀ s ∈ t.symbols, s.name ≠ name := by simpa [symbol?] using hs
  have hsame : ∀ s ∈ t.symbols, s.undergo (.clear name) = s := by
    intro s hmem
    simp [Symbol.undergo, (hother s hmem).symm]
  simp [undergo, List.map_congr_left hsame]

/-- What a checked source writes: the values of the lines before its first bad one. -/
def checkedEffects (t : SymbolTable) (source lead text : String) : List Effect :=
  t.writes source (Dotconfig.lineEntries lead.toList 1
    ((Text.lines text.toList).takeWhile fun raw => ¬ t.Stops lead.toList raw))

@[simp] theorem checkedEffects_undergo (log : List Effect) (source lead text : String) :
    (t.undergo log).checkedEffects source lead text = t.checkedEffects source lead text := by
  simp only [checkedEffects, writes_undergo, stops_undergo]

/-- What a file that is applied as it is writes: the texts of the entries before a line that cannot be
read. -/
def fileEffects (t : SymbolTable) (files : Files.Tree) (path : Files.Path) (lead : String) :
    List Effect :=
  match files.readText path with
  | .ok text =>
    (Dotconfig.read lead text).entries.filterMap fun e => t.stored? e.name e.value path.toString
  | .error _ => []

@[simp] theorem fileEffects_undergo (log : List Effect) (files : Files.Tree) (path : Files.Path)
    (lead : String) : (t.undergo log).fileEffects files path lead = t.fileEffects files path lead := by
  simp only [fileEffects, stored?_undergo]

end SymbolTable

/-! ### Sources -/

namespace Apply

open SymbolTable

variable {state : ApplyState}

theorem checked_table (w : Surroundings) (source text : String) (hd : state.table.Distinct) :
    (checked w source text state).2.table = state.table.undergo
      (state.table.checkedEffects source w.settings.symbolLead text) := by
  let lead := w.settings.symbolLead.toList
  let good (raw : List Char) : Bool := ¬ state.table.Stops lead raw
  have hbefore : ∀ line ∈ (Text.lines text.toList).takeWhile good, ¬ state.table.Stops lead line := by
    intro line hline
    simpa [good] using List.mem_takeWhile_imp hline
  have hsplit := List.takeWhile_append_dropWhile (p := good) (l := Text.lines text.toList)
  cases hrest : (Text.lines text.toList).dropWhile good with
  | nil =>
    rw [hrest, List.append_nil] at hsplit
    rw [hsplit] at hbefore
    obtain ⟨logger, hrun⟩ := checked_run_of_good w source text hd hbefore
    rw [hrun]
    show state.table.afterLines source lead _ = state.table.undergo (state.table.writes source
      (Dotconfig.lineEntries lead 1 ((Text.lines text.toList).takeWhile good)))
    rw [hsplit]
    rfl
  | cons raw rest =>
    have hraw : state.table.Stops lead raw := by
      have hhead := List.head?_dropWhile_not good (Text.lines text.toList)
      rw [hrest] at hhead
      simpa [good] using hhead
    rw [hrest] at hsplit
    obtain ⟨f, logger, -, hrun⟩ := checked_run_of_bad w source hd hbefore hraw
    rw [hrun text rest hsplit.symm]
    rfl

theorem uncheckedEntry_run (hd : state.table.Distinct) (source : String) (e : Entry) :
    uncheckedEntry source e state = (.ok (), { state with
      table := state.table.undergo (state.table.stored? e.name e.value source).toList }) := by
  rw [uncheckedEntry, bind_run_ok (table_run state)]
  cases hs : state.table.symbol? e.name with
  | none => simp [stored?, hs, pure_run]
  | some s =>
    rw [← assignRaw_eq_undergo hd hs]
    exact setTable_run _ state

theorem forM_uncheckedEntry_run (hd : state.table.Distinct) (source : String) (es : List Entry) :
    es.forM (uncheckedEntry source) state = (.ok (), { state with
      table := state.table.undergo (es.filterMap fun e => state.table.stored? e.name e.value source) }) := by
  induction es generalizing state with
  | nil => simp [List.forM_nil, pure_run]
  | cons e es ih =>
    show (uncheckedEntry source e >>= fun _ => es.forM (uncheckedEntry source)) state = _
    rw [bind_run_ok (uncheckedEntry_run hd source e), ih (distinct_undergo hd _)]
    cases hs : state.table.stored? e.name e.value source <;> simp [hs]

/-- A file that can be read is applied up to the line that cannot. -/
theorem unchecked_run_of_read {w : Surroundings} {path : Files.Path} {text : String}
    (hd : state.table.Distinct) (hread : w.files.readText path = .ok text) (lead : String) :
    ∃ logger, unchecked w path lead state =
      (match (Dotconfig.read lead text).failure with
        | some f => .error (.fault (f.fault path.toString))
        | none => .ok (),
      { state with table := state.table.undergo (state.table.fileEffects w.files path lead), logger }) := by
  have hrun := forM_uncheckedEntry_run hd path.toString (Dotconfig.read lead text).entries
  rw [unchecked, bind_run_ok (readSource_run hread .symbolFile state)]
  dsimp only
  rw [bind_run_ok (table_run state), entries, bind_assoc, bind_run_ok hrun]
  simp only [fileEffects, hread]
  cases (Dotconfig.read lead text).failure with
  | none => exact ⟨_, rfl⟩
  | some f => exact ⟨_, rfl⟩

theorem unchecked_table (w : Surroundings) (path : Files.Path) (lead : String)
    (hd : state.table.Distinct) :
    (unchecked w path lead state).2.table =
      state.table.undergo (state.table.fileEffects w.files path lead) := by
  cases hread : w.files.readText path with
  | error e =>
    obtain ⟨e', hfail⟩ := readSource_run_error hread .symbolFile state
    rw [unchecked, bind_run_error hfail]
    simp [fileEffects, hread]
  | ok text =>
    obtain ⟨logger, hrun⟩ := unchecked_run_of_read hd hread lead
    rw [hrun]

end Apply

/-! ### Runs -/

/-- What happens to a table, apart from scripts. What is meant for a symbol that there is not is passed
over. -/
inductive Action where
  | assign (call : SymbolTable.Call)
  | store (name text source : String)
  | clear (name : String)
  | clearAll
  | configuration (w : Surroundings) (source text : String)
  | file (w : Surroundings) (path : Files.Path) (lead : String)

namespace Action

open Apply SymbolTable

def program : Action → Apply Unit
  | assign call => do
    let t ← table
    match t.symbol? call.name with
    | none => return ()
    | some s => match t.set s call.value call.provenance with
      | .ok t => setTable t
      | .error r => fail r.fault
  | store name text source => do
    let t ← table
    match t.symbol? name with
    | none => return ()
    | some s => setTable (t.assignRaw s text source)
  | clear name => do
    let t ← table
    match t.symbol? name with
    | none => return ()
    | some s => setTable (t.update s.reset)
  | clearAll => modify fun s => { s with table := s.table.reset }
  | configuration w source text => checked w source text
  | file w path lead => unchecked w path lead

/-- The state after an action, whether it succeeds or fails. -/
def after (s : ApplyState) (a : Action) : ApplyState := (a.program s).2

/-- The writes of an action that are accepted, and its resets. -/
def effects (t : SymbolTable) : Action → List Effect
  | assign call => (t.accepted? call).toList
  | store name text source => (t.stored? name text source).toList
  | clear name => [.clear name]
  | clearAll => t.names.map .clear
  | configuration w source text => t.checkedEffects source w.settings.symbolLead text
  | file w path lead => t.fileEffects w.files path lead

theorem effects_undergo (t : SymbolTable) (log : List Effect) (a : Action) :
    effects (t.undergo log) a = effects t a := by
  have hnames : (t.undergo log).names = t.names := names_eq_of_reset (reset_undergo t log)
  cases a <;> simp [effects, hnames]

variable {state : ApplyState}

theorem assign_run_of_accepted (hd : state.table.Distinct) {call : Call} {e : Effect}
    (h : state.table.accepted? call = some e) : (assign call).program state =
      (.ok (), { state with table := state.table.undergo [e] }) := by
  obtain ⟨s, v, hs, hv, rfl⟩ := accepted?_eq_some.mp h
  have hset := (set_eq_ok (t := state.table) (p := call.provenance)).mpr ⟨v, hv, rfl⟩
  rw [update_record hd (mem_of_symbol? hs), name_of_symbol? hs] at hset
  rw [program, bind_run_ok (table_run state)]
  simp only [hs, hset]
  exact setTable_run _ state

/-- A write that is refused is a fault, and changes nothing. -/
theorem assign_run_of_refused {call : Call} {s : Symbol} (hs : state.table.symbol? call.name = some s)
    (h : state.table.accepted? call = none) :
    ∃ f, (assign call).program state = (.error (.fault f), state) := by
  obtain ⟨e, he⟩ := accepted?_eq_none.mp h s hs
  rw [program, bind_run_ok (table_run state)]
  simp only [hs]
  cases hset : state.table.set s call.value call.provenance with
  | ok t =>
    obtain ⟨v, hv, -⟩ := set_eq_ok.mp hset
    cases hv.symm.trans he
  | error r => exact ⟨r.fault, rfl⟩

theorem assign_run_of_unknown {call : Call} (hs : state.table.symbol? call.name = none) :
    (assign call).program state = (.ok (), state) := by
  rw [program, bind_run_ok (table_run state)]
  simp [hs, pure_run]

/-- One action has its effects. -/
theorem table_after (hd : state.table.Distinct) (a : Action) :
    (after state a).table = state.table.undergo (effects state.table a) := by
  cases a with
  | assign call =>
    cases h : state.table.accepted? call with
    | some e => simp [after, effects, assign_run_of_accepted hd h, h]
    | none =>
      cases hs : state.table.symbol? call.name with
      | none => simp [after, effects, assign_run_of_unknown hs, h]
      | some s =>
        obtain ⟨f, hrun⟩ := assign_run_of_refused hs h
        simp [after, effects, hrun, h]
  | store name text source =>
    rw [after, program, bind_run_ok (table_run state)]
    cases hs : state.table.symbol? name with
    | none => simp [effects, stored?, hs, pure_run]
    | some s =>
      simp only [effects]
      rw [setTable_run, assignRaw_eq_undergo hd hs]
  | clear name =>
    rw [after, program, bind_run_ok (table_run state)]
    cases hs : state.table.symbol? name with
    | none => simp [effects, undergo_clear_of_unknown hs, pure_run]
    | some s =>
      simp only [effects]
      rw [setTable_run, update_reset hd (mem_of_symbol? hs), name_of_symbol? hs]
  | clearAll => exact reset_eq_undergo state.table
  | configuration w source text => exact checked_table w source text hd
  | file w path lead => exact unchecked_table w path lead hd

/-- All that a run of actions has written and reset. What is accepted depends only on how the symbols
are declared, so each action is judged by the table at the start. -/
def logOf (t : SymbolTable) (actions : List Action) : List Effect := actions.flatMap (effects t)

theorem table_foldl_after (hd : state.table.Distinct) (actions : List Action) :
    (actions.foldl after state).table = state.table.undergo (logOf state.table actions) := by
  induction actions generalizing state with
  | nil => simp [logOf]
  | cons a actions ih =>
    have hstep := table_after hd a
    have hd' : (after state a).table.Distinct := hstep ▸ distinct_undergo hd _
    have hlog : logOf (after state a).table actions = logOf state.table actions := by
      rw [hstep]
      exact congrArg actions.flatMap (funext fun a => effects_undergo _ _ a)
    rw [List.foldl_cons, ih hd', hlog, hstep, undergo_undergo]
    rfl

/-- After any actions, whether they have succeeded or failed, the history of each symbol names, latest
first, the writes to it that were accepted since its last reset, its value is the one of the last of
them, and so is its latest provenance; it has no value just when it has no history. A further
assignment succeeds and has its effect, or is refused and changes nothing. -/
theorem history_is_log_of_writes (state : ApplyState) (hd : state.table.Distinct)
    (actions : List Action) :
    let final := actions.foldl after state
    let log := logOf state.table actions
    List.Forall₂ (fun s s' => s.Records log s' ∧
        s'.history.head? = ((writesSinceReset s.name log).getLast?.map (·.provenance)).or
          (s.before log).history.head? ∧
        ((s.value = none ↔ s.history = []) → (s'.value = none ↔ s'.history = [])))
      state.table.symbols final.table.symbols ∧
    ∀ call s, final.table.symbol? call.name = some s →
      (∀ e, final.table.accepted? call = some e → (assign call).program final =
        (.ok (), { final with table := final.table.undergo [e] })) ∧
      (final.table.accepted? call = none →
        ∃ f, (assign call).program final = (.error (.fault f), final)) := by
  intro final log
  have hfinal : final.table = state.table.undergo log := table_foldl_after hd actions
  have hd' : final.table.Distinct := hfinal ▸ distinct_undergo hd _
  constructor
  · rw [hfinal]
    refine List.forall₂_map_right_iff.mpr (List.forall₂_same.mpr fun s hs => ?_)
    have hrecords := s.records_foldl_undergo log
    exact ⟨hrecords, hrecords.provenance, hrecords.value_eq_none_iff⟩
  · intro call s hs
    exact ⟨fun e he => assign_run_of_accepted hd' he, assign_run_of_refused hs⟩

/-- A file whose third line cannot be read. -/
def brokenFile : Surroundings where
  files := ⟨[(["d"], .file (Text.utf8 "CONFIG_BASE=9\nCONFIG_X=1\nBASE\nCONFIG_BASE=1\n"))]⟩

theorem fileEffects_brokenFile : boundedStart.table.fileEffects brokenFile.files (.ofString "d")
    "CONFIG_" = [.write "BASE" (.auto "9") ⟨"d", none⟩] := by
  have hread : brokenFile.files.readText (.ofString "d") =
      .ok "CONFIG_BASE=9\nCONFIG_X=1\nBASE\nCONFIG_BASE=1\n" := by
    simp only [Files.Tree.readText, Files.Tree.readBytes, String.contains_char_eq]
    decide +kernel
  rw [fileEffects, hread]
  decide +kernel

/-- Assignments to a bounded symbol, a reset, a source that stops at its third line, and a file that is
applied as it is up to a line that cannot be read. -/
def boundedRun : List Action :=
  [.assign ⟨"DEBUG", .tristate .yes, ⟨"a", none⟩⟩, .assign ⟨"BASE", .number 5, ⟨"a", none⟩⟩,
    .clear "BASE", .assign ⟨"BASE", .number 9, ⟨"a", some "trace"⟩⟩,
    .configuration {} "c" outOfRange, .file brokenFile (.ofString "d") "CONFIG_"]

theorem history_is_log_of_boundedRun :
    let final := boundedRun.foldl after boundedStart
    let log := logOf boundedStart.table boundedRun
    boundedStart.table.Distinct ∧
    writesSinceReset "BASE" log = [⟨.number 3, ⟨"c", some "c:1"⟩⟩, ⟨.auto "9", ⟨"d", none⟩⟩] ∧
    List.Forall₂ (fun s s' => s.Records log s' ∧
        s'.history.head? = ((writesSinceReset s.name log).getLast?.map (·.provenance)).or
          (s.before log).history.head? ∧
        ((s.value = none ↔ s.history = []) → (s'.value = none ↔ s'.history = [])))
      boundedStart.table.symbols final.table.symbols := by
  have hd : boundedStart.table.Distinct := by decide
  refine ⟨hd, ?_, (history_is_log_of_writes boundedStart hd boundedRun).1⟩
  simp only [logOf, boundedRun, List.flatMap_cons, effects, fileEffects_brokenFile]
  decide +kernel

end Action

end KernelConfig
