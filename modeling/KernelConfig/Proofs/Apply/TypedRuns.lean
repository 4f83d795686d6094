import KernelConfig.Proofs.Apply.Sources
import KernelConfig.Proofs.Symbol.Calls

/-!
Typed runs: a table stays typed, and its declarations stay what they are, through whatever happens to
it except the storing of unread texts. A script may do anything but load an unchecked source.
-/

set_option autoImplicit false

namespace KernelConfig

/-- Whether an event is the load of an unchecked source, or the attempt at one. -/
def Apply.Event.unchecked : Apply.Event → Bool
  | .used _ .load [_, nocheck] _ => nocheck.isTruthy
  | _ => false

namespace Apply

/-- Nothing in the journal is lost. -/
def Extends (s s' : ApplyState) : Prop := ∃ since, s'.journal = since ++ s.journal

instance : IsPreorder ApplyState Extends where
  refl s := ⟨[], rfl⟩
  trans a b c hab hbc := by
    obtain ⟨x, hx⟩ := hab
    obtain ⟨y, hy⟩ := hbc
    exact ⟨y ++ x, by rw [hy, hx, List.append_assoc]⟩

/-- A table is kept typed as long as the journal shows no load of an unchecked source. -/
def Keeps (s s' : ApplyState) : Prop :=
  ∃ since, s'.journal = since ++ s.journal ∧
    ((∀ e ∈ since, e.unchecked = false) → s.table.Distinct →
      s'.table.reset = s.table.reset ∧ (s.table.WellTyped → s'.table.WellTyped))

instance : IsPreorder ApplyState Keeps where
  refl s := ⟨[], rfl, fun _ _ => ⟨rfl, id⟩⟩
  trans a b c hab hbc := by
    obtain ⟨x, hx, hab⟩ := hab
    obtain ⟨y, hy, hbc⟩ := hbc
    refine ⟨y ++ x, by rw [hy, hx, List.append_assoc], fun hall hd => ?_⟩
    simp only [List.mem_append] at hall
    have hb := hab (fun e he => hall e (.inr he)) hd
    have hc := hbc (fun e he => hall e (.inl he)) (SymbolTable.distinct_of_reset hb.1.symm hd)
    exact ⟨hc.1.trans hb.1, fun ht => hc.2 (hb.2 ht)⟩

theorem extends_of_keeps {s s' : ApplyState} (h : Keeps s s') : Extends s s' := by
  obtain ⟨since, hs, -⟩ := h
  exact ⟨since, hs⟩

theorem keeps_same {s s' : ApplyState} (htable : s'.table = s.table) (hjournal : s'.journal = s.journal) :
    Keeps s s' :=
  ⟨[], hjournal, fun _ _ => by rw [htable]; exact ⟨rfl, id⟩⟩

theorem logs_keeps : Logs Keeps := logs_of_logger fun _ _ => keeps_same rfl rfl

theorem logs_extends : Logs Extends := logs_of_logger fun _ _ => ⟨[], rfl⟩

theorem keeps_note (s : ApplyState) (e : Event) : Keeps s (s.note e) :=
  ⟨[e], rfl, fun _ _ => ⟨rfl, id⟩⟩

theorem keeps_set {s s' : ApplyState} {sym : Symbol} {v : SymbolValue} {p : Provenance}
    (hs : s.table.symbol? sym.name = some sym) (hset : s.table.set sym v p = .ok s'.table)
    (hjournal : s'.journal = s.journal) : Keeps s s' :=
  ⟨[], hjournal, fun _ hd => SymbolTable.set_keeps hd (SymbolTable.mem_of_symbol? hs) hset⟩

/-- A way of loading other sources that keeps a table typed unless it is told to check nothing. -/
def Checks (loader : Option Loader) : Prop :=
  ∀ load, loader = some load → ∀ path, Moves Keeps (load path false) ∧ Moves Extends (load path true)

theorem extends_use_load (w : Surroundings) {c : Caller} (hc : Checks c.loader)
    (arguments : List Datum) : Moves Extends (use w c .load arguments) := by
  rw [use_load]
  split
  · exact moves_throw _
  · refine moves_loadFrom logs_extends w c _ _ fun load hload path => ?_
    cases (arguments.getD 1 .null).isTruthy with
    | true => exact (hc load hload path).2
    | false => exact (hc load hload path).1.mono fun _ _ => extends_of_keeps

theorem keeps_use_load {w : Surroundings} {c : Caller} (hc : Checks c.loader)
    {arguments : List Datum}
    (hchecked : ∀ path nocheck, arguments = [path, nocheck] → nocheck.isTruthy = false) :
    Moves Keeps (use w c .load arguments) := by
  rw [use_load]
  split
  · exact moves_throw _
  · rename_i hn
    have hnocheck : (arguments.getD 1 .null).isTruthy = false := by
      match arguments with
      | [] => rfl
      | [_] => rfl
      | [path, nocheck] => exact hchecked path nocheck rfl
      | _ :: _ :: _ :: _ => simp at hn
    refine moves_loadFrom logs_keeps w c _ _ fun load hload path => ?_
    rw [hnocheck]
    exact (hc load hload path).1

theorem keeps_used {w : Surroundings} {c : Caller} (hc : Checks c.loader) (what : Capability)
    (arguments : List Datum) : Moves Keeps (used w c what arguments) := by
  intro s
  let e := Event.used c.depth what arguments (use w c what arguments s).1
  show Keeps s ((use w c what arguments s).2.note e)
  by_cases hload : what = .load
  · subst hload
    cases he : e.unchecked with
    | true =>
      -- The note of this very use shows that nothing is promised.
      obtain ⟨since, hs⟩ := extends_use_load w hc arguments s
      refine ⟨e :: since, by simp [ApplyState.note, hs], fun hall => ?_⟩
      rw [hall e (by simp)] at he
      cases he
    | false =>
      have hchecked : ∀ path nocheck, arguments = [path, nocheck] → nocheck.isTruthy = false := by
        rintro path nocheck rfl
        exact he
      exact IsTrans.trans _ _ _ (keeps_use_load hc hchecked s) (keeps_note _ e)
  · have hsettles := settles_use w c hload arguments s
    refine IsTrans.trans _ _ _ ?_ (keeps_note _ e)
    rcases hsettles.table with htable | ⟨sym, v, p, hs, hset, -⟩
    · exact keeps_same htable hsettles.journal
    · exact keeps_set hs hset hsettles.journal

theorem keeps_checked (w : Surroundings) (source text : String) :
    Moves Keeps (checked w source text) :=
  moves_checked logs_keeps (fun _ _ _ _ _ hs hset => keeps_set hs hset rfl) w source text

theorem keeps_script {w : Surroundings} {loader : Option Loader} (hl : Checks loader)
    (name text : String) (depth : Int) : Moves Keeps (script w loader name text depth) :=
  moves_script (fun _ _ htable hjournal _ => keeps_same htable hjournal) logs_keeps
    (fun s => keeps_note s _) (fun s _ _ => keeps_note s _)
    (fun what arguments => keeps_used hl what arguments) text

theorem keeps_sourceWith {w : Surroundings} {loader : Option Loader} (hl : Checks loader)
    (s : Source) (depth : Int) : Moves Keeps (sourceWith w loader s depth) := by
  unfold sourceWith
  split
  · exact keeps_script hl _ _ _
  · exact keeps_checked w _ _

theorem checks_loaderAt (w : Surroundings) (levels : Nat) (depth : Int) :
    Checks (loaderAt w levels depth) := by
  -- Sources may load one another in a circle: only the levels that are left get fewer with each load.
  induction levels generalizing depth with
  | zero =>
    intro load hload
    cases hload
  | succ levels ih =>
    intro load hload path
    cases hload
    constructor
    · exact moves_bind (moves_readSourceFile w path) fun s => keeps_sourceWith (ih (depth + 1)) s (depth + 1)
    · exact moves_unchecked logs_extends (fun _ _ _ _ _ => ⟨[], rfl⟩) w path _

theorem checks_loader (w : Surroundings) (depth : Int) : Checks (loader w depth) :=
  checks_loaderAt w _ depth

end Apply

/-- What may happen to a table, each time in surroundings of its own. -/
inductive Operation where
  | assign (call : SymbolTable.Call)
  | use (w : Surroundings) (source : String) (depth : Int) (what : Capability)
      (arguments : List Datum)
  | configuration (w : Surroundings) (source text : String)
  | script (w : Surroundings) (name text : String) (depth : Int)
  | reset

namespace Operation

open Apply

def program : Operation → Apply Unit
  | assign call => modify fun s => { s with table := s.table.after call }
  | use w source depth what arguments => do
    let _ ← used w { source, depth, loader := loader w depth } what arguments
  | configuration w source text => checked w source text
  | script w name text depth => Apply.script w (loader w depth) name text depth
  | reset => modify fun s => { s with table := s.table.reset }

/-- The state after an operation, whether it succeeds or fails. -/
def after (s : ApplyState) (o : Operation) : ApplyState := (o.program s).2

theorem keeps_program (o : Operation) : Moves Keeps o.program := by
  cases o with
  | assign call =>
    exact moves_modify fun s => ⟨[], rfl, fun _ hd =>
      ⟨SymbolTable.reset_after hd call, fun ht => SymbolTable.wellTyped_after ht call⟩⟩
  | use w source depth what arguments =>
    exact moves_bind (keeps_used (checks_loader w depth) what arguments) fun _ => moves_pure _
  | configuration w source text => exact keeps_checked w source text
  | script w name text depth => exact keeps_script (checks_loader w depth) name text depth
  | reset =>
    exact moves_modify fun s => ⟨[], rfl, fun _ _ =>
      ⟨SymbolTable.reset_reset _, fun _ => SymbolTable.wellTyped_reset _⟩⟩

theorem keeps_foldl_after (s : ApplyState) (operations : List Operation) :
    Keeps s (operations.foldl after s) := by
  induction operations generalizing s with
  | nil => exact Std.Refl.refl s
  | cons o operations ih => exact IsTrans.trans _ _ _ (keeps_program o s) (ih _)

/-- After any operations, whether they have succeeded or failed, every symbol holds nothing or a value
of its declared type, and the declarations are those of the beginning, unless a script has loaded an
unchecked source. -/
theorem wellTyped_of_operations (s : ApplyState) (operations : List Operation)
    (hdistinct : s.table.Distinct) (htyped : s.table.WellTyped)
    (hchecked : ∀ e ∈ (operations.foldl after s).journal, e.unchecked = false) :
    (operations.foldl after s).table.WellTyped ∧
      (operations.foldl after s).table.reset = s.table.reset := by
  obtain ⟨since, hjournal, hkeeps⟩ := keeps_foldl_after s operations
  have hsince : ∀ e ∈ since, e.unchecked = false := by
    intro e he
    apply hchecked
    rw [hjournal]
    exact List.mem_append_left _ he
  have hend := hkeeps hsince hdistinct
  exact ⟨hend.2 htyped, hend.1⟩

/-- A run with an assignment that is refused, a use of a capability, a configuration file that fails in
its second line, and a reset. -/
def mixedRun : List Operation :=
  [.assign ⟨"BASE", .number 9, ⟨"a", none⟩⟩, .use {} "b" 0 .setBool [.text "DEBUG", .bool true],
    .configuration {} "c" "CONFIG_BASE=3\nCONFIG_BASE=8\n", .reset,
    .use {} "d" 16 .load [.text "e.config", .bool false]]

def mixedStart : ApplyState where
  table := { symbols := [{ name := "DEBUG", type := .boolean },
    { name := "BASE", type := .number, range := some (0, 7) }] }

theorem wellTyped_of_mixedRun :
    (mixedRun.foldl after mixedStart).table.WellTyped ∧
      (mixedRun.foldl after mixedStart).table.reset = mixedStart.table.reset := by
  have hdistinct : mixedStart.table.Distinct := by decide
  have htyped : mixedStart.table.WellTyped := by
    intro sym hs v hv
    simp [mixedStart] at hs
    rcases hs with rfl | rfl <;> cases hv
  have hchecked : ∀ e ∈ (mixedRun.foldl after mixedStart).journal, e.unchecked = false := by
    decide +kernel
  exact wellTyped_of_operations mixedStart mixedRun hdistinct htyped hchecked

end Operation

end KernelConfig
