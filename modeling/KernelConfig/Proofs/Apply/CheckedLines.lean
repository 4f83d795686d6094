import KernelConfig.Proofs.Apply.Run
import KernelConfig.Proofs.Symbol.Effects
import KernelConfig.Proofs.Text.Lines

/-!
Checked sources, line by line: the lines before the first bad one are applied one after the other, and
a bad one ends the apply.
-/

set_option autoImplicit false

namespace KernelConfig

open Dotconfig (Assignment Document Entry LineFault readLine readLines)

namespace Dotconfig

/-- The assignments that numbered lines make. -/
def lineEntries (lead : List Char) (number : Nat) (lines : List (List Char)) : List Entry :=
  (lines.zipIdx number).filterMap fun (raw, number) => match readLine lead raw with
    | .ok (some a) => some { a with line := number }
    | _ => none

theorem lineEntries_cons_none {lead raw : List Char} (h : readLine lead raw = .ok none)
    (number : Nat) (lines : List (List Char)) :
    lineEntries lead number (raw :: lines) = lineEntries lead (number + 1) lines := by
  simp [lineEntries, h]

theorem lineEntries_cons_some {lead raw : List Char} {a : Assignment}
    (h : readLine lead raw = .ok (some a)) (number : Nat) (lines : List (List Char)) :
    lineEntries lead number (raw :: lines) =
      { a with line := number } :: lineEntries lead (number + 1) lines := by
  simp [lineEntries, h]

/-- The entries for one symbol. -/
def entriesFor (name : String) (es : List Entry) : List Entry := es.filter (·.name = name)

theorem entriesFor_cons_same {name : String} {e : Entry} (h : e.name = name) (es : List Entry) :
    entriesFor name (e :: es) = e :: entriesFor name es := by
  simp [entriesFor, h]

theorem entriesFor_cons_other {name : String} {e : Entry} (h : e.name ≠ name) (es : List Entry) :
    entriesFor name (e :: es) = entriesFor name es := by
  simp [entriesFor, h]

/-- The place of an entry is noted with its assignment. -/
def Entry.provenance (source : String) (e : Entry) : Provenance :=
  ⟨source, some (source ++ ":" ++ Text.decimal e.line)⟩

def Entry.call (source : String) (e : Entry) : SymbolTable.Call :=
  ⟨e.name, .auto e.value, e.provenance source⟩

end Dotconfig

/-- A line that a checked source cannot get past: it cannot be read, or it names no symbol, or its
symbol refuses the value. -/
inductive SymbolTable.Stops (t : SymbolTable) (lead raw : List Char) : Prop
  | unreadable {cause : LineFault} (h : readLine lead raw = .error cause)
  | unknown {a : Assignment} (h : readLine lead raw = .ok (some a)) (hn : t.symbol? a.name = none)
  | refused {a : Assignment} {s : Symbol} {e : SymbolValue × Refusal}
      (h : readLine lead raw = .ok (some a)) (hs : t.symbol? a.name = some s)
      (hv : Symbol.coerceTo s.type s.range (.auto a.value) = .error e)

namespace SymbolTable

variable {t : SymbolTable} {lead raw : List Char}

theorem stops_iff : t.Stops lead raw ↔ (∃ cause, readLine lead raw = .error cause) ∨
    ∃ a, readLine lead raw = .ok (some a) ∧
      ∀ source line, t.accepted? (Entry.call source { a with line }) = none := by
  constructor
  · rintro (h | ⟨h, hn⟩ | ⟨h, hs, hv⟩)
    · exact .inl ⟨_, h⟩
    · refine .inr ⟨_, h, fun source line => accepted?_eq_none.mpr fun s hs => ?_⟩
      cases hn.symm.trans hs
    · refine .inr ⟨_, h, fun source line => accepted?_eq_none.mpr fun s hs' => ?_⟩
      cases hs.symm.trans hs'
      exact ⟨_, hv⟩
  · rintro (⟨cause, h⟩ | ⟨a, h, hnone⟩)
    · exact .unreadable h
    · have hnone := accepted?_eq_none.mp (hnone "" 0)
      cases hs : t.symbol? a.name with
      | none => exact .unknown h hs
      | some s =>
        obtain ⟨e, hv⟩ := hnone s hs
        exact .refused h hs hv

theorem stops_iff_of_assignment {a : Assignment} (h : readLine lead raw = .ok (some a)) :
    t.Stops lead raw ↔ t.accepted? (Entry.call "" { a with line := 0 }) = none := by
  rw [stops_iff, h]
  constructor
  · rintro (⟨cause, h⟩ | ⟨a', h, hnone⟩)
    · cases h
    · cases h
      exact hnone "" 0
  · intro hnone
    refine .inr ⟨a, rfl, fun source line => accepted?_eq_none.mpr fun s hs => ?_⟩
    exact accepted?_eq_none.mp hnone s hs

instance (t : SymbolTable) (lead raw : List Char) : Decidable (t.Stops lead raw) :=
  match h : readLine lead raw with
  | .error _ => .isTrue (.unreadable h)
  | .ok none => .isFalse fun hs => by
    rcases stops_iff.mp hs with ⟨cause, h'⟩ | ⟨a, h', -⟩ <;> cases h.symm.trans h'
  | .ok (some _) => decidable_of_iff _ (stops_iff_of_assignment h).symm

theorem stops_undergo (log : List Effect) : (t.undergo log).Stops lead raw ↔ t.Stops lead raw := by
  simp only [stops_iff, accepted?_undergo]

/-- The writes of a source whose symbols take all its values. -/
def writes (t : SymbolTable) (source : String) (es : List Entry) : List Effect :=
  es.filterMap fun e => t.accepted? (e.call source)

@[simp] theorem writes_undergo (log : List Effect) (source : String) (es : List Entry) :
    (t.undergo log).writes source es = t.writes source es := by
  simp [writes]

/-- Without a bad line every entry is accepted. -/
theorem accepted_of_not_stops {lines : List (List Char)} (h : ∀ line ∈ lines, ¬ t.Stops lead line)
    (source : String) (number : Nat) {e : Entry} (he : e ∈ Dotconfig.lineEntries lead number lines) :
    ∃ effect, t.accepted? (e.call source) = some effect := by
  obtain ⟨⟨line, k⟩, hmem, hentry⟩ := List.mem_filterMap.mp he
  have hline : ¬ t.Stops lead line := h line (List.fst_mem_of_mem_zipIdx hmem)
  dsimp only at hentry
  split at hentry
  · rename_i a hread
    cases hentry
    rw [stops_iff_of_assignment hread] at hline
    obtain ⟨effect, heffect⟩ := Option.ne_none_iff_exists'.mp hline
    obtain ⟨s, v, hs, hv, -⟩ := accepted?_eq_some.mp heffect
    exact ⟨_, accepted?_eq_some.mpr ⟨s, v, hs, hv, rfl⟩⟩
  · cases hentry

/-- The table after lines of a source none of which is bad. -/
def afterLines (t : SymbolTable) (source : String) (lead : List Char) (lines : List (List Char)) :
    SymbolTable :=
  t.undergo (t.writes source (Dotconfig.lineEntries lead 1 lines))

end SymbolTable

/-! ### Symbols -/

open Dotconfig (entriesFor entriesFor_cons_same entriesFor_cons_other)

/-- A symbol after the entries of a source: each that names it has given it a value, one after the
other. -/
structure Symbol.Assigned (source : String) (es : List Entry) (s s' : Symbol) : Prop where
  declaration : s'.reset = s.reset
  history : s'.history =
    ((entriesFor s.name es).map (Entry.provenance source)).reverse ++ s.history
  untouched : entriesFor s.name es = [] → s'.value = s.value
  value : ∀ e, (entriesFor s.name es).getLast? = some e →
    ∃ v, Symbol.coerceTo s.type s.range (.auto e.value) = .ok v ∧ s'.value = some v

namespace Symbol

theorem Assigned.of_other {source : String} {e : Entry} {es : List Entry} {s s' : Symbol}
    (hn : e.name ≠ s.name) (h : s.Assigned source es s') : s.Assigned source (e :: es) s' := by
  refine ⟨h.declaration, ?_, ?_, ?_⟩ <;> rw [entriesFor_cons_other hn]
  · exact h.history
  · exact h.untouched
  · exact h.value

theorem Assigned.of_named {source : String} {e : Entry} {es : List Entry} {s s' : Symbol}
    {v : SymbolValue} (hn : e.name = s.name) (hv : coerceTo s.type s.range (.auto e.value) = .ok v)
    (h : (s.record v (e.provenance source)).Assigned source es s') :
    s.Assigned source (e :: es) s' := by
  obtain ⟨hdeclaration, hhistory, huntouched, hvalue⟩ := h
  refine ⟨hdeclaration, ?_, fun h => ?_, fun last hlast => ?_⟩
  · rw [hhistory, entriesFor_cons_same hn]
    simp [record]
  · rw [entriesFor_cons_same hn] at h
    cases h
  · rw [entriesFor_cons_same hn] at hlast
    cases hes : entriesFor s.name es with
    | nil =>
      rw [hes] at hlast
      cases hlast
      exact ⟨v, hv, huntouched hes⟩
    | cons e' es' =>
      rw [hes, List.getLast?_cons_cons, ← hes] at hlast
      exact hvalue last hlast

theorem assigned_foldl_writes {t : SymbolTable} {source : String} {es : List Entry}
    (haccepted : ∀ e ∈ es, ∃ effect, t.accepted? (e.call source) = some effect) {s₀ s : Symbol}
    (hs₀ : t.symbol? s.name = some s₀) (hs : s₀.reset = s.reset) :
    s.Assigned source es ((t.writes source es).foldl undergo s) := by
  -- Here `s` is what the entries before have made of the symbol.
  induction es generalizing s with
  | nil => exact ⟨rfl, rfl, fun _ => rfl, fun e he => by simp [entriesFor] at he⟩
  | cons e es ih =>
    simp only [List.mem_cons, forall_eq_or_imp] at haccepted
    obtain ⟨⟨effect, heffect⟩, hrest⟩ := haccepted
    have hwrites : t.writes source (e :: es) = effect :: t.writes source es := by
      simp [SymbolTable.writes, heffect]
    obtain ⟨s₁, v, hs₁, hv, rfl⟩ := SymbolTable.accepted?_eq_some.mp heffect
    have hs₁ : t.symbol? e.name = some s₁ := hs₁
    rw [hwrites, List.foldl_cons]
    by_cases hn : e.name = s.name
    · have hrecord : s.undergo (.write (e.call source).name v (e.call source).provenance) =
          s.record v (e.provenance source) := by
        simp [undergo, Entry.call, hn]
      have hv' : coerceTo s.type s.range (.auto e.value) = .ok v := by
        rw [hn, hs₀] at hs₁
        cases hs₁
        have hrange : s₀.reset.range = s.reset.range := by rw [hs]
        have hrange : s₀.range = s.range := hrange
        rw [← type_eq_of_reset hs, ← hrange]
        exact hv
      rw [hrecord]
      exact .of_named hn hv' (ih hrest hs₀ hs)
    · have hsame : s.undergo (.write (e.call source).name v (e.call source).provenance) = s := by
        simp [undergo, Entry.call, hn]
      rw [hsame]
      exact .of_other hn (ih hrest hs₀ hs)

end Symbol

/-! ### Entries -/

namespace Apply

open Dotconfig SymbolTable

variable {state : ApplyState} {source lead : String} {raw : List Char} {number : Nat}

theorem entries_cons (source : String) (e : Entry) (d : Document) (apply : Entry → Apply Unit) :
    entries source ⟨e :: d.entries, d.failure⟩ apply =
      apply e >>= fun _ => entries source d apply :=
  bind_assoc (apply e) (fun _ => d.entries.forM apply) _

/-- An entry whose symbol takes its value has the effect of that. -/
theorem checkedEntry_run_of_accepted (hd : state.table.Distinct) {e : Entry} {effect : Effect}
    (h : state.table.accepted? (e.call source) = some effect) :
    checkedEntry source lead e state =
      (.ok (), { state with table := state.table.undergo [effect] }) := by
  obtain ⟨s, v, hs, hv, rfl⟩ := accepted?_eq_some.mp h
  have hfind : state.table.symbol? e.name = some s := hs
  have hname : s.name = e.name := name_of_symbol? hs
  have hset : state.table.set s (.auto e.value)
      ⟨source, some (source ++ ":" ++ Text.decimal e.line)⟩ =
        .ok (state.table.undergo [.write e.name v (e.provenance source)]) := by
    rw [← hname, ← update_record hd (mem_of_symbol? hs)]
    exact set_eq_ok.mpr ⟨v, hv, rfl⟩
  rw [checkedEntry, bind_run_ok (table_run state)]
  simp only [hfind, hset]
  exact setTable_run _ _

/-- A fault that points at a line of a source. -/
structure PointsAt (source : String) (line : Nat) (f : Fault) : Prop where
  kind : f.kind = .configLoad
  source : f.context.source = .text source
  line : f.context.line = .int line

theorem checkedEntry_run_of_not_accepted (source lead : String) {t : SymbolTable} {e : Entry}
    (h : t.accepted? (e.call source) = none) :
    ∃ f, PointsAt source e.line f ∧ ∀ s : ApplyState, s.table = t →
      checkedEntry source lead e s = (.error (.fault f), s) := by
  have hnone := accepted?_eq_none.mp h
  let place := source ++ ":" ++ Text.decimal e.line
  let located (f : Fault) : Fault := ((f.withSource source).withLine e.line).withSymbol e.name
  cases hs : t.symbol? e.name with
  | none =>
    refine ⟨located (Fault.of .configLoad (place ++ ": unknown symbol " ++ lead ++ e.name)),
      ⟨rfl, rfl, rfl⟩, ?_⟩
    rintro s rfl
    rw [checkedEntry, bind_run_ok (table_run s)]
    simp only [hs]
    rfl
  | some sym =>
    cases hset : t.set sym (.auto e.value) ⟨source, some place⟩ with
    | ok t' =>
      obtain ⟨v, hv, -⟩ := set_eq_ok.mp hset
      obtain ⟨c, hc⟩ := hnone sym hs
      cases hv.symm.trans hc
    | error r =>
      refine ⟨located ((Fault.of .configLoad (place ++ ": " ++ r.message)).causedBy r.message),
        ⟨rfl, rfl, rfl⟩, ?_⟩
      rintro s rfl
      rw [checkedEntry, bind_run_ok (table_run s)]
      simp only [hs, hset, place]
      rfl

/-- The lines before the first bad one have their effects; then the rest is applied. The induction is
on these lines. -/
theorem entries_run_append (source lead : String) {before : List (List Char)}
    (hd : state.table.Distinct) (hgood : ∀ raw ∈ before, ¬ state.table.Stops lead.toList raw)
    (number : Nat) (rest : List (List Char)) :
    entries source (readLines lead.toList number (before ++ rest)) (checkedEntry source lead) state =
      entries source (readLines lead.toList (number + before.length) rest) (checkedEntry source lead)
        { state with table :=
          state.table.undergo (state.table.writes source (lineEntries lead.toList number before)) } := by
  induction before generalizing number state with
  | nil => simp [lineEntries, writes]
  | cons raw before ih =>
    simp only [List.mem_cons, forall_eq_or_imp] at hgood
    have hnumber : number + (raw :: before).length = number + 1 + before.length := by
      simp only [List.length_cons]
      omega
    rw [hnumber, List.cons_append]
    cases hread : readLine lead.toList raw with
    | error cause => exact absurd (.unreadable hread) hgood.1
    | ok a =>
      cases a with
      | none =>
        rw [readLines, hread, lineEntries_cons_none hread]
        exact ih hd hgood.2 (number + 1)
      | some a =>
        rw [readLines, hread, lineEntries_cons_some hread]
        dsimp only
        cases haccepted : state.table.accepted? (Entry.call source { a with line := number }) with
        | none =>
          refine absurd ((stops_iff_of_assignment hread).mpr ?_) hgood.1
          exact accepted?_eq_none.mpr fun s hs => accepted?_eq_none.mp haccepted s hs
        | some effect =>
          have hwrites : state.table.writes source
              ({ a with line := number } :: lineEntries lead.toList (number + 1) before) =
              effect :: state.table.writes source (lineEntries lead.toList (number + 1) before) := by
            simp [writes, haccepted]
          rw [entries_cons, bind_run_ok (checkedEntry_run_of_accepted hd haccepted), hwrites]
          rw [ih (distinct_undergo hd _) (by simpa only [stops_undergo] using hgood.2)]
          simp

/-- A bad line ends the apply, and what follows it does not matter. -/
theorem entries_run_of_stops (source lead : String) (number : Nat) {t : SymbolTable}
    (h : t.Stops lead.toList raw) :
    ∃ f, PointsAt source number f ∧ ∀ rest (s : ApplyState), s.table = t →
      entries source (readLines lead.toList number (raw :: rest)) (checkedEntry source lead) s =
        (.error (.fault f), s) := by
  rcases stops_iff.mp h with ⟨cause, hread⟩ | ⟨a, hread, hnone⟩
  · refine ⟨(⟨number, cause⟩ : DocumentFault).fault source, ⟨rfl, rfl, rfl⟩, fun rest s _ => ?_⟩
    rw [readLines, hread]
    rfl
  · obtain ⟨f, hf, hrun⟩ := checkedEntry_run_of_not_accepted source lead (hnone source number)
    refine ⟨f, hf, fun rest s hs => ?_⟩
    rw [readLines, hread]
    dsimp only
    rw [entries_cons, bind_run_error (hrun s hs)]

/-! ### The whole source -/

/-- The state in which the entries of a source are applied. -/
def begun (source : String) (state : ApplyState) : ApplyState :=
  { state with
    logger := (state.logger.bind [("source", .text source)]).emit
      { level := .info, name := "config.apply.started", fields := [("kind", .text "kconfig")] } }

theorem checked_eq (w : Surroundings) (source text : String) (state : ApplyState) :
    checked w source text state =
      let d := Dotconfig.read w.settings.symbolLead text
      let r := (do
        entries source d (checkedEntry source w.settings.symbolLead)
        log .info "config.apply.completed"
          [("kind", .text "kconfig"), ("assignments", .int d.entries.length)]) (begun source state)
      (r.1, { r.2 with
        logger := r.2.logger.leave (Log.Scope.of state.logger.bound [("source", .text source)]) }) := by
  rw [checked, inScope_run, bind_run_ok (log_run _ _ _ _)]
  rfl

/-- A source whose entries are applied to the end is applied. -/
theorem checked_run_ok {w : Surroundings} {text : String} {t : SymbolTable}
    (hrun : ∀ s : ApplyState, s.table = state.table →
      entries source (Dotconfig.read w.settings.symbolLead text)
        (checkedEntry source w.settings.symbolLead) s = (.ok (), { s with table := t })) :
    ∃ logger, checked w source text state = (.ok (), { state with table := t, logger }) := by
  rw [checked_eq]
  dsimp only
  rw [bind_run_ok (hrun (begun source state) rfl), log_run]
  exact ⟨_, rfl⟩

/-- A source whose entries end with a fault ends with it, in a state that the rest of the source has no
part in. -/
theorem checked_run_error (w : Surroundings) (source : String) (state : ApplyState) (e : Failure)
    (t : SymbolTable) : ∃ logger, ∀ text, (∀ s : ApplyState, s.table = state.table →
      entries source (Dotconfig.read w.settings.symbolLead text)
        (checkedEntry source w.settings.symbolLead) s = (.error e, { s with table := t })) →
      checked w source text state = (.error e, { state with table := t, logger }) := by
  refine ⟨(begun source state).logger.leave (Log.Scope.of state.logger.bound
    [("source", .text source)]), fun text hrun => ?_⟩
  rw [checked_eq]
  dsimp only
  rw [bind_run_error (hrun (begun source state) rfl)]
  rfl

theorem checked_run_of_good (w : Surroundings) (source text : String)
    (hd : state.table.Distinct)
    (hgood : ∀ raw ∈ Text.lines text.toList, ¬ state.table.Stops w.settings.symbolLead.toList raw) :
    ∃ logger, checked w source text state = (.ok (), { state with
      table := state.table.afterLines source w.settings.symbolLead.toList (Text.lines text.toList)
      logger }) := by
  refine checked_run_ok fun s hs => ?_
  rw [← hs] at hd hgood ⊢
  have hrun := entries_run_append source w.settings.symbolLead hd hgood 1 []
  rw [List.append_nil] at hrun
  exact hrun

/-- A source with a bad line fails at it, after the lines before. -/
theorem checked_run_of_bad (w : Surroundings) (source : String) {before : List (List Char)}
    (hd : state.table.Distinct)
    (hbefore : ∀ line ∈ before, ¬ state.table.Stops w.settings.symbolLead.toList line)
    (hraw : state.table.Stops w.settings.symbolLead.toList raw) :
    ∃ f logger, PointsAt source (before.length + 1) f ∧ ∀ (text : String) rest,
      Text.lines text.toList = before ++ raw :: rest → checked w source text state =
        (.error (.fault f), { state with
          table := state.table.afterLines source w.settings.symbolLead.toList before
          logger }) := by
  let t := state.table.afterLines source w.settings.symbolLead.toList before
  obtain ⟨f, hf, hstops⟩ := entries_run_of_stops source w.settings.symbolLead (before.length + 1)
    (t := t) ((stops_undergo _).mpr hraw)
  obtain ⟨logger, hfails⟩ := checked_run_error w source state (.fault f) t
  refine ⟨f, logger, hf, fun text rest hlines => hfails text fun s hs => ?_⟩
  rw [Dotconfig.read, hlines]
  rw [← hs] at hd hbefore
  rw [entries_run_append source w.settings.symbolLead hd hbefore, Nat.add_comm, hs]
  exact hstops rest _ rfl

/-- A checked source stops at its first bad line. Without one it is applied, and each symbol has taken
the values of the entries that name it; otherwise the fault points at that line, the table is the one
that the lines before it make, and nothing depends on the lines behind it. -/
theorem checked_stops_at_first_bad_line (w : Surroundings) (source text : String) (state : ApplyState)
    (hd : state.table.Distinct) :
    let lead := w.settings.symbolLead.toList
    let lines := Text.lines text.toList
    ((∀ raw ∈ lines, ¬ state.table.Stops lead raw) →
      ∃ state', checked w source text state = (.ok (), state') ∧
        List.Forall₂ (Symbol.Assigned source (lineEntries lead 1 lines)) state.table.symbols
          state'.table.symbols ∧ state'.table.env = state.table.env) ∧
    ∀ before raw after, lines = before ++ raw :: after →
      (∀ line ∈ before, ¬ state.table.Stops lead line) → state.table.Stops lead raw →
      ∃ f stopped applied, PointsAt source (before.length + 1) f ∧
        checked w source text state = (.error (.fault f), stopped) ∧
        checked w source (Text.ofLines before) state = (.ok (), applied) ∧
        stopped.table = applied.table ∧
        ∀ other, (Text.lines other.toList).take (before.length + 1) = lines.take (before.length + 1) →
          checked w source other state = (.error (.fault f), stopped) := by
  intro lead lines
  constructor
  · intro hgood
    obtain ⟨logger, hrun⟩ := checked_run_of_good w source text hd hgood
    refine ⟨_, hrun, ?_, rfl⟩
    refine List.forall₂_map_right_iff.mpr (List.forall₂_same.mpr fun s hs => ?_)
    exact Symbol.assigned_foldl_writes (fun e => accepted_of_not_stops hgood source 1)
      (symbol?_name hd hs) rfl
  · intro before raw after hlines hbefore hraw
    obtain ⟨f, logger, hf, hfails⟩ := checked_run_of_bad w source hd hbefore hraw
    have hwritten : Text.lines (Text.ofLines before).toList = before := by
      refine Text.lines_ofLines (s := text.toList) fun line hline => ?_
      show line ∈ lines
      rw [hlines]
      exact List.mem_append_left _ hline
    obtain ⟨logger', happlied⟩ := checked_run_of_good w source (Text.ofLines before) hd
      (by rwa [hwritten])
    refine ⟨f, _, _, hf, hfails text after hlines, happlied, by rw [hwritten], fun other htake => ?_⟩
    refine hfails other ((Text.lines other.toList).drop (before.length + 1)) ?_
    have hfirst : lines.take (before.length + 1) = before ++ [raw] := by
      rw [hlines, List.take_append]
      simp
    rw [← List.take_append_drop (before.length + 1) (Text.lines other.toList), htake, hfirst]
    simp

/-- A table, and a file whose third line it refuses. -/
def boundedStart : ApplyState where
  table := { symbols := [{ name := "DEBUG", type := .boolean },
    { name := "BASE", type := .number, range := some (0, 7) }] }

def outOfRange : String := "CONFIG_BASE=3\n# a note\nCONFIG_BASE=8\nCONFIG_DEBUG=y\n"

theorem checked_stops_at_third_line : boundedStart.table.Distinct ∧
    ∃ f stopped applied, PointsAt "c" 3 f ∧
      checked {} "c" outOfRange boundedStart = (.error (.fault f), stopped) ∧
      checked {} "c" (Text.ofLines ["CONFIG_BASE=3".toList, "# a note".toList]) boundedStart =
        (.ok (), applied) ∧ stopped.table = applied.table ∧
      ∀ other, (Text.lines other.toList).take 3 = (Text.lines outOfRange.toList).take 3 →
        checked {} "c" other boundedStart = (.error (.fault f), stopped) := by
  have hd : boundedStart.table.Distinct := by decide
  refine ⟨hd, (checked_stops_at_first_bad_line {} "c" outOfRange boundedStart hd).2
    ["CONFIG_BASE=3".toList, "# a note".toList] "CONFIG_BASE=8".toList ["CONFIG_DEBUG=y".toList] ?_ ?_ ?_⟩
  · decide
  · decide
  · decide

end Apply

end KernelConfig
