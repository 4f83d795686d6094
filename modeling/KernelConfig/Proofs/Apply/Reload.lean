import KernelConfig.Namespace.Plan
import KernelConfig.Proofs.Apply.CheckedLines
import KernelConfig.Proofs.Dotconfig.Reading

/-!
Dumping and reloading: the configuration file that a table dumps, applied to the table as it was
declared, assigns every value again.
-/

set_option autoImplicit false

namespace KernelConfig

open Dotconfig (IsWord)

/-! ### The line of one symbol -/

namespace Symbol

/-- What the line of a symbol needs so that it reads back. -/
structure Dumpable (s : Symbol) : Prop where
  word : IsWord s.name.toList
  named : s.name.toList ≠ []
  typed : s.type ≠ .auto
  wellTyped : s.WellTyped
  onOneLine : s.OnOneLine

/-- What the line of a symbol with a value says. -/
def assignment (s : Symbol) : Dotconfig.Assignment := ⟨s.name, s.text, s.type = .string⟩

/-- The text of a switch or a number has no blank in it and no quote. -/
theorem text_plain {s : Symbol} {v : SymbolValue} (hv : s.value = some v)
    (hf : v.Fits s.type s.range) (ha : s.type ≠ .auto) (hs : s.type ≠ .string) :
    ∀ c ∈ s.text.toList, Text.isBlank c = false ∧ c ≠ '"' := by
  have hdigit : ∀ d < 16, Text.isBlank (Text.digitChar d) = false ∧ Text.digitChar d ≠ '"' := by
    decide
  have hnumeral : ∀ base n, 0 < base → base ≤ 16 → ∀ c ∈ Text.numeral base n,
      Text.isBlank c = false ∧ c ≠ '"' := by
    intro base n h0 hb c hc
    obtain ⟨d, hd, rfl⟩ := Text.exists_digit_of_mem_numeral h0 hc
    exact hdigit d (by omega)
  cases hk : s.type with
  | auto => exact absurd hk ha
  | string => exact absurd hk hs
  | boolean =>
    rw [hk] at hf
    obtain ⟨b, rfl⟩ := hf
    cases b <;> simp [text, hv, SymbolValue.text] <;> decide
  | tristate =>
    rw [hk] at hf
    obtain ⟨t, rfl⟩ := hf
    cases t <;> simp [text, hv, SymbolValue.text, Tristate.text] <;> decide
  | number =>
    rw [hk] at hf
    obtain ⟨n, rfl, -⟩ := hf
    simp only [text, hv]
    split
    · rw [Text.hexadecimal, String.toList_ofList]
      simp only [List.mem_cons, forall_eq_or_imp]
      exact ⟨by decide, by decide, hnumeral 16 _ (by decide) (by decide)⟩
    · rw [Text.decimal, String.toList_ofList]
      exact hnumeral 10 _ (by decide) (by decide)

theorem text_of_string {s : Symbol} {v : SymbolValue} (hv : s.value = some v)
    (hf : v.Fits s.type s.range) (ht : s.type = .string) : v = .auto s.text := by
  rw [ht] at hf
  obtain ⟨x, rfl⟩ := hf
  simp [text, hv, SymbolValue.text]

end Symbol

namespace SymbolTable

open Dotconfig

theorem dumpLine_of_unassigned {s : Symbol} (lead : String) (h : s.value = none) :
    dumpLine lead s = none := by
  simp [dumpLine, h]

/-- A text that is one line and is read as an assignment. -/
def ReadsAs (lead line : String) (a : Assignment) : Prop :=
  Text.OnOneLine line ∧ readLine lead.toList line.toList = .ok (some a)

theorem isLineBreak_of_word {w : List Char} (hw : IsWord w) {c : Char} (hc : c ∈ w) :
    Text.isLineBreak c = false :=
  isLineBreak_of_not_isBlank (isBlank_of_isNameChar (hw c hc))

variable {lead name : String}

theorem readsAs_unset (hl : IsWord lead.toList) (hw : IsWord name.toList) (hne : name.toList ≠ []) :
    ReadsAs lead ("# " ++ lead ++ name ++ " is not set") ⟨name, "n", false⟩ := by
  have hline : ("# " ++ lead ++ name ++ " is not set").toList =
      '#' :: ' ' :: (lead.toList ++ name.toList) ++ " is not set".toList := by
    simp [String.toList_append]
  have hend : Text.OnOneLine " is not set" := by decide
  refine ⟨?_, ?_⟩
  · intro c hc
    rw [hline] at hc
    simp only [List.cons_append, List.mem_cons, List.mem_append] at hc
    rcases hc with rfl | rfl | (hc | hc) | hc
    · decide
    · decide
    · exact isLineBreak_of_word hl hc
    · exact isLineBreak_of_word hw hc
    · exact hend c hc
  · rw [hline, readLine_unset hl hw hne, String.ofList_toList]

theorem onOneLine_assignment {value : String} (hl : IsWord lead.toList) (hw : IsWord name.toList)
    (hone : Text.OnOneLine value) : Text.OnOneLine (lead ++ name ++ "=" ++ value) := by
  intro c hc
  simp only [String.toList_append, List.mem_append] at hc
  rcases hc with ((hc | hc) | hc) | hc
  · exact isLineBreak_of_word hl hc
  · exact isLineBreak_of_word hw hc
  · obtain rfl : c = '=' := by simpa using hc
    decide
  · exact hone c hc

/-- What follows the equals sign may be any text without line boundaries that has no blanks at its
ends. -/
theorem readsAs_assignment {value : String} {a : Assignment} (hl : IsWord lead.toList)
    (hw : IsWord name.toList) (hne : lead.toList ++ name.toList ≠ []) (hone : Text.OnOneLine value)
    (hfirst : ∀ c, value.toList.head? = some c → Text.isBlank c = false)
    (hlast : ∀ c, value.toList.getLast? = some c → Text.isBlank c = false)
    (hread : readValue name.toList value.toList = .ok (some a)) :
    ReadsAs lead (lead ++ name ++ "=" ++ value) a := by
  have hline : (lead ++ name ++ "=" ++ value).toList =
      lead.toList ++ name.toList ++ '=' :: value.toList := by
    simp [String.toList_append]
  refine ⟨onOneLine_assignment hl hw hone, ?_⟩
  rw [hline, readLine_assignment hl hw hne hfirst hlast, hread]

theorem readsAs_quoted {text : String} (hl : IsWord lead.toList) (hw : IsWord name.toList)
    (hne : lead.toList ++ name.toList ≠ []) (hone : Text.OnOneLine text) :
    ReadsAs lead (lead ++ name ++ "=" ++ quoteText text) ⟨name, text, true⟩ := by
  have hq : (quoteText text).toList = quote text.toList := by simp [quoteText]
  apply readsAs_assignment hl hw hne
  · intro c hc
    rw [hq] at hc
    rcases mem_of_mem_quote hc with hc | rfl | rfl
    · exact hone c hc
    · decide
    · decide
  · intro c hc
    rw [hq] at hc
    cases hc
    decide
  · intro c hc
    rw [hq, quote, List.getLast?_append_of_ne_nil _ (by simp)] at hc
    cases hc
    decide
  · have hhead : (quote text.toList).head? = some '"' := rfl
    simp [hq, readValue, hhead, unquote_quote]

theorem readsAs_bare {text : String} (hl : IsWord lead.toList) (hw : IsWord name.toList)
    (hne : name.toList ≠ []) (hp : ∀ c ∈ text.toList, Text.isBlank c = false ∧ c ≠ '"') :
    ReadsAs lead (lead ++ name ++ "=" ++ text) ⟨name, text, false⟩ := by
  apply readsAs_assignment hl hw (List.append_ne_nil_of_right_ne_nil _ hne)
  · intro c hc
    exact isLineBreak_of_not_isBlank (hp c hc).1
  · intro c hc
    exact (hp c (List.mem_of_mem_head? hc)).1
  · intro c hc
    exact (hp c (List.mem_of_getLast? hc)).1
  · have hhead : text.toList.head? ≠ some '"' := by
      intro h
      exact (hp _ (List.mem_of_mem_head? h)).2 rfl
    simp [readValue, hhead]

/-- The line of an assigned symbol reads as the symbol's text. -/
theorem readsAs_dumpLine {s : Symbol} (hs : s.Dumpable) (hl : IsWord lead.toList)
    {v : SymbolValue} (hv : s.value = some v) :
    ∃ line, dumpLine lead s = some line ∧ ReadsAs lead line s.assignment := by
  have hf := hs.wellTyped v hv
  by_cases hn : s.type.isSwitch = true ∧ s.text = "n"
  · have ht : s.type ≠ .string := by
      intro h
      simp [h, SymbolType.isSwitch] at hn
    refine ⟨_, by simp [dumpLine, hv, hn]; rfl, ?_⟩
    simpa [Symbol.assignment, hn.2, ht] using readsAs_unset hl hs.word hs.named
  · by_cases ht : s.type = .string
    · refine ⟨_, by simp [dumpLine, hv, ht, SymbolType.isSwitch]; rfl, ?_⟩
      have hone := hs.onOneLine ht s.text (by rw [hv, Symbol.text_of_string hv hf ht])
      simpa [Symbol.assignment, ht] using readsAs_quoted hl hs.word
        (List.append_ne_nil_of_right_ne_nil _ hs.named) hone
    · refine ⟨_, by simp [dumpLine, hv, ht, hn]; rfl, ?_⟩
      simpa [Symbol.assignment, ht] using
        readsAs_bare hl hs.word hs.named (Symbol.text_plain hv hf hs.typed ht)

/-! ### The file -/

/-- The entries of a dump: the assigned symbols, each with the number of its line. -/
def dumpEntries (number : Nat) : List Symbol → List Entry
  | [] => []
  | s :: rest =>
    if s.value.isNone then dumpEntries number rest
    else { s.assignment with line := number } :: dumpEntries (number + 1) rest

theorem readLines_dumpLines (hl : IsWord lead.toList) (symbols : List Symbol)
    (hs : ∀ s ∈ symbols, s.Dumpable) (number : Nat) :
    readLines lead.toList number ((symbols.filterMap (dumpLine lead)).map String.toList) =
      ⟨dumpEntries number symbols, none⟩ := by
  induction symbols generalizing number with
  | nil => rfl
  | cons s rest ih =>
    simp only [List.mem_cons, forall_eq_or_imp] at hs
    cases hv : s.value with
    | none =>
      rw [List.filterMap_cons_none (dumpLine_of_unassigned lead hv), ih hs.2]
      simp [dumpEntries, hv]
    | some v =>
      obtain ⟨line, hline, -, hread⟩ := readsAs_dumpLine hs.1 hl hv
      rw [List.filterMap_cons_some hline, List.map_cons, readLines, hread]
      simp [ih hs.2, dumpEntries, hv]

/-- The lines of a dump are those of its symbols, if none of these goes on behind a boundary. -/
theorem lines_dump {t : SymbolTable}
    (h : ∀ s ∈ t.symbols, ∀ line, dumpLine lead s = some line → Text.OnOneLine line) :
    Text.lines (t.dump lead).toList = (t.symbols.filterMap (dumpLine lead)).map String.toList := by
  have hchars : (t.dump lead).toList =
      ((t.symbols.filterMap (dumpLine lead)).map String.toList).flatMap fun l => l ++ ['\n'] := by
    simp [dump, String.toList_join, List.flatMap_map, String.toList_append]
  rw [hchars]
  refine Text.lines_flatMap _ fun l hl => ?_
  obtain ⟨line, hline, rfl⟩ := List.mem_map.mp hl
  obtain ⟨s, hs, hs'⟩ := List.mem_filterMap.mp hline
  exact h s hs line hs'

/-- A dump is read as the assignments that it was written for. -/
theorem read_dump (hl : IsWord lead.toList) {t : SymbolTable} (hs : ∀ s ∈ t.symbols, s.Dumpable) :
    Dotconfig.read lead (t.dump lead) = ⟨dumpEntries 1 t.symbols, none⟩ := by
  have hone : ∀ s ∈ t.symbols, ∀ line, dumpLine lead s = some line → Text.OnOneLine line := by
    intro s hmem line hline
    cases hv : s.value with
    | none => rw [dumpLine_of_unassigned lead hv] at hline; cases hline
    | some v =>
      obtain ⟨line', hline', hreads, -⟩ := readsAs_dumpLine (hs s hmem) hl hv
      cases hline.symm.trans hline'
      exact hreads
  rw [Dotconfig.read, lines_dump hone, readLines_dumpLines hl _ hs]

/-! ### The reload -/

/-- A symbol after a reload, beside the one that was dumped: declared the same, with the same value,
which it has by a single assignment. -/
structure Reloaded (s s' : Symbol) : Prop where
  declaration : s'.reset = s.reset
  value : s'.value = s.value
  history : s'.history.length = if s.value.isSome then 1 else 0

theorem reloaded_reset {s : Symbol} (h : s.value = none) : Reloaded s s.reset :=
  ⟨rfl, h.symm, by simp [h, Symbol.reset]⟩

theorem reloaded_record {s : Symbol} {v : SymbolValue} (h : s.value = some v) (p : Provenance) :
    Reloaded s (s.reset.record v p) :=
  ⟨rfl, h.symm, by simp [h, Symbol.reset, Symbol.record]⟩

theorem dumpLine_of_reloaded {s s' : Symbol} (h : Reloaded s s') (lead : String) :
    dumpLine lead s' = dumpLine lead s := by
  have hname := Symbol.name_eq_of_reset h.declaration
  have htype := Symbol.type_eq_of_reset h.declaration
  have hhex : s'.hex = s.hex := by
    have hr : s'.reset.hex = s.reset.hex := by rw [h.declaration]
    exact hr
  have htext : s'.text = s.text := by simp only [Symbol.text, h.value, htype, hhex]
  simp only [dumpLine, h.value, htype, htext, hname]

theorem dump_of_reloaded {t t' : SymbolTable} (h : List.Forall₂ Reloaded t.symbols t'.symbols)
    (lead : String) : t'.dump lead = t.dump lead := by
  have hlines : ∀ ss ss' : List Symbol, List.Forall₂ Reloaded ss ss' →
      ss'.filterMap (dumpLine lead) = ss.filterMap (dumpLine lead) := by
    intro ss ss' hss
    induction hss with
    | nil => rfl
    | cons hs _ ih => simp [List.filterMap_cons, dumpLine_of_reloaded hs, ih]
  rw [dump, dump, hlines _ _ h]

end SymbolTable

/-! ### The apply -/

namespace Apply

open SymbolTable

/-- An entry of a dump assigns its symbol, which has been reset. -/
theorem checkedEntry_run (source lead : String) (line : Nat) {s : Symbol} {v : SymbolValue}
    (hs : s.Dumpable) (hv : s.value = some v) {state : ApplyState}
    (hd : state.table.Distinct) (hmem : s.reset ∈ state.table.symbols) :
    checkedEntry source lead { s.assignment with line } state =
      (.ok (), { state with table := state.table.update (s.reset.record v
        ⟨source, some (source ++ ":" ++ Text.decimal line)⟩) }) := by
  have hfind : state.table.symbol? s.name = some s.reset := symbol?_name hd hmem
  have hcoerce : Symbol.coerceTo s.reset.type s.reset.range (.auto s.text) = .ok v :=
    Symbol.coerceTo_text hv (hs.wellTyped v hv) hs.typed
  have hset := (set_eq_ok (t := state.table) (s := s.reset) (v := .auto s.text)
    (p := ⟨source, some (source ++ ":" ++ Text.decimal line)⟩)).mpr ⟨v, hcoerce, rfl⟩
  rw [checkedEntry, bind_run_ok (table_run state)]
  simp only [Symbol.assignment, hfind, hset]
  exact setTable_run _ _

/-- The entries for the symbols still to come assign them one by one; those before stay. -/
theorem forM_checkedEntry_run (source lead : String) {todo : List Symbol}
    (hs : ∀ s ∈ todo, s.Dumpable) (line : Nat) (done : List Symbol) (env : List (String × String))
    (hd : (⟨done ++ todo.map Symbol.reset, env⟩ : SymbolTable).Distinct) :
    ∃ reloaded, List.Forall₂ Reloaded todo reloaded ∧
      ∀ state : ApplyState, state.table = ⟨done ++ todo.map Symbol.reset, env⟩ →
        (dumpEntries line todo).forM (checkedEntry source lead) state =
          (.ok (), { state with table := ⟨done ++ reloaded, env⟩ }) := by
  induction todo generalizing line done with
  | nil =>
    refine ⟨[], .nil, fun state htable => ?_⟩
    rw [← show state.table = ⟨done ++ [], env⟩ from htable]
    rfl
  | cons s todo ih =>
    simp only [List.mem_cons, forall_eq_or_imp] at hs
    cases hv : s.value with
    | none =>
      have hsplit : done ++ (s :: todo).map Symbol.reset =
          done ++ [s.reset] ++ todo.map Symbol.reset := by simp
      rw [hsplit] at hd ⊢
      obtain ⟨reloaded, hr, hrun⟩ := ih hs.2 line _ hd
      refine ⟨s.reset :: reloaded, .cons (reloaded_reset hv) hr, fun state htable => ?_⟩
      simpa [dumpEntries, hv] using hrun state htable
    | some v =>
      let s' := s.reset.record v ⟨source, some (source ++ ":" ++ Text.decimal line)⟩
      have hd' : (⟨done ++ [s'] ++ todo.map Symbol.reset, env⟩ : SymbolTable).Distinct := by
        simpa [Distinct, names, s', Symbol.record] using hd
      obtain ⟨reloaded, hr, hrun⟩ := ih hs.2 (line + 1) _ hd'
      refine ⟨s' :: reloaded, .cons (reloaded_record hv _) hr, fun state htable => ?_⟩
      have hdistinct : state.table.Distinct := by rwa [htable]
      have hone := checkedEntry_run source lead line hs.1 hv hdistinct (by simp [htable])
      have hupdate : state.table.update s' = ⟨done ++ [s'] ++ todo.map Symbol.reset, env⟩ := by
        rw [htable]
        have hname : s'.name = s.reset.name := rfl
        simpa using update_between hd hname
      rw [hupdate] at hone
      have hentries : dumpEntries line (s :: todo) =
          { s.assignment with line } :: dumpEntries (line + 1) todo := by simp [dumpEntries, hv]
      rw [hentries]
      show (checkedEntry source lead _ >>= fun _ => (dumpEntries (line + 1) todo).forM _) state = _
      rw [bind_run_ok hone]
      simpa using hrun { state with table := ⟨done ++ [s'] ++ todo.map Symbol.reset, env⟩ } rfl

theorem isWord_of_isIdentifier {s : String} (h : Namespace.isIdentifier s = true) :
    IsWord s.toList := by
  intro c hc
  cases hs : s.toList with
  | nil => simp [hs] at hc
  | cons d rest =>
    simp only [Namespace.isIdentifier, hs, Bool.and_eq_true, List.all_eq_true] at h
    rw [hs] at hc
    rcases List.mem_cons.mp hc with rfl | hc
    · exact h.1.1
    · exact h.2 c hc

/-- Applying the dump of a table to the table as it was declared. -/
theorem checked_dump_run (w : Surroundings) (source : String) {t : SymbolTable} (hd : t.Distinct)
    (hs : ∀ s ∈ t.symbols, s.Dumpable) (hl : IsWord w.settings.symbolLead.toList)
    (state : ApplyState) (htable : state.table = t.reset) :
    ∃ reloaded logger, List.Forall₂ Reloaded t.symbols reloaded ∧
      checked w source (t.dump w.settings.symbolLead) state =
        (.ok (), { state with table := ⟨reloaded, t.env⟩, logger }) := by
  have hd' : (⟨[] ++ t.symbols.map Symbol.reset, t.env⟩ : SymbolTable).Distinct :=
    distinct_of_reset (reset_reset t).symm hd
  obtain ⟨reloaded, hr, hrun⟩ :=
    forM_checkedEntry_run source w.settings.symbolLead hs 1 [] t.env hd'
  have hentries : ∀ s : ApplyState, s.table = state.table →
      entries source (Dotconfig.read w.settings.symbolLead (t.dump w.settings.symbolLead))
        (checkedEntry source w.settings.symbolLead) s =
          (.ok (), { s with table := ⟨reloaded, t.env⟩ }) := by
    intro s hst
    rw [read_dump hl hs, entries, bind_run_ok (hrun s (hst.trans htable))]
    rfl
  obtain ⟨logger, hchecked⟩ := checked_run_ok hentries
  exact ⟨reloaded, logger, hr, hchecked⟩

/-- Every table that has been filled by tracked assignments survives dumping and reloading: every
value comes back by one assignment, nothing else does, and the dump stays the same. -/
theorem reload_of_dump (w : Surroundings) (source : String) (t : SymbolTable)
    (calls : List SymbolTable.Call) (state : ApplyState) (hd : t.Distinct)
    (hnames : ∀ name ∈ t.names, name ≠ "" ∧ IsWord name.toList)
    (htypes : ∀ s ∈ t.symbols, s.type ≠ .auto)
    (hlead : Namespace.isIdentifier w.settings.symbolLead = true)
    (hcalls : ∀ c ∈ calls, ∀ s ∈ t.symbols, s.name = c.name → s.type = .string →
      ∀ text, c.value = .auto text → Text.OnOneLine text)
    (hstate : state.table = (calls.foldl SymbolTable.after t.reset).reset) :
    let filled := calls.foldl SymbolTable.after t.reset
    ∃ state', checked w source (filled.dump w.settings.symbolLead) state = (.ok (), state') ∧
      List.Forall₂ (fun s s' => s'.reset = s.reset ∧ s'.value = s.value ∧
        s'.history.length = if s.value.isSome then 1 else 0) filled.symbols state'.table.symbols ∧
      state'.table.env = filled.env ∧
      state'.table.dump w.settings.symbolLead = filled.dump w.settings.symbolLead := by
  intro filled
  have hd₀ : t.reset.Distinct := distinct_of_reset (reset_reset t).symm hd
  have hreset : filled.reset = t.reset := (reset_foldl_after t.reset hd₀ calls).trans (reset_reset t)
  have hone : ∀ s ∈ filled.symbols, s.OnOneLine := by
    apply onOneLine_foldl_after t.reset hd₀ calls
    · intro s hs _ x hx
      obtain ⟨s, -, rfl⟩ := List.mem_map.mp hs
      cases hx
    · intro c hc s hs
      obtain ⟨s₀, hs₀, rfl⟩ := List.mem_map.mp hs
      exact hcalls c hc s₀ hs₀
  have hdumpable : ∀ s ∈ filled.symbols, s.Dumpable := by
    intro s hs
    have hmem : s.reset ∈ t.reset.symbols := by
      rw [← hreset]
      exact List.mem_map_of_mem hs
    obtain ⟨s₀, hs₀, heq⟩ := List.mem_map.mp hmem
    have hname := hnames s₀.name (List.mem_map_of_mem hs₀)
    rw [Symbol.name_eq_of_reset heq] at hname
    exact {
      word := hname.2
      named := by simpa using hname.1
      typed := by
        rw [← Symbol.type_eq_of_reset heq]
        exact htypes s₀ hs₀
      wellTyped := wellTyped_foldl_after t.reset (wellTyped_reset t) calls s hs
      onOneLine := hone s hs }
  obtain ⟨reloaded, logger, hr, hrun⟩ := checked_dump_run w source
    (distinct_of_reset (hreset.trans (reset_reset t).symm).symm hd₀) hdumpable
    (isWord_of_isIdentifier hlead) state hstate
  refine ⟨_, hrun, hr.imp fun s s' h => ⟨h.declaration, h.value, h.history⟩, rfl, ?_⟩
  exact dump_of_reloaded hr w.settings.symbolLead

/-- A table of three kinds of symbols, with calls one of which is refused. -/
def mixedTable : SymbolTable where
  symbols := [{ name := "DEBUG", type := .tristate },
    { name := "BASE", type := .number, hex := true, range := some (0, 65535) },
    { name := "GREETING", type := .string }]

def mixedCalls : List SymbolTable.Call :=
  [⟨"GREETING", .auto "say \"hi\"", ⟨"a", none⟩⟩, ⟨"BASE", .number 4096, ⟨"a", none⟩⟩,
    ⟨"BASE", .number 65536, ⟨"b", none⟩⟩, ⟨"DEBUG", .tristate .no, ⟨"b", some "trace"⟩⟩]

theorem reload_of_dump_mixed :
    let filled := mixedCalls.foldl SymbolTable.after mixedTable.reset
    ∃ state', checked {} "again" (filled.dump "CONFIG_") { table := filled.reset } = (.ok (), state') ∧
      List.Forall₂ (fun s s' => s'.reset = s.reset ∧ s'.value = s.value ∧
        s'.history.length = if s.value.isSome then 1 else 0) filled.symbols state'.table.symbols ∧
      state'.table.env = filled.env ∧ state'.table.dump "CONFIG_" = filled.dump "CONFIG_" := by
  apply reload_of_dump {} "again" mixedTable mixedCalls
  · decide
  · decide
  · decide
  · decide
  · simp [mixedCalls, mixedTable]
    decide
  · rfl

end Apply

end KernelConfig
