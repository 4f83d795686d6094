import KernelConfig.Proofs.Apply.Independence
import KernelConfig.Proofs.Dotconfig.LineByLine

/-!
Restoring: what is left of texts that have been stored as they are, when the table is dumped and the dump
is loaded in its turn. Only the texts of string symbols are dumped in quotes, so the others come back
exactly when they can stand without.
-/

set_option autoImplicit false

namespace KernelConfig

open Dotconfig (Assignment IsBare IsWord LineFault assignments lastText lineEntries readLine readLines
  readValue)

/-! ### Values -/

namespace Dotconfig

theorem length_unescape_le (s : List Char) : (unescape s).length ≤ s.length := by
  fun_induction unescape s with
  | case1 => exact Nat.le_refl _
  | case2 c rest ih => simp only [List.length_cons]; omega
  | case3 rest _ ih => simp only [List.length_cons]; omega
  | case4 c rest _ _ ih => simp only [List.length_cons]; omega

theorem length_lt_of_unquote {s t : List Char} (h : unquote s = some t) : t.length < s.length := by
  unfold unquote at h
  split at h
  · rename_i hquoted
    cases h
    have hlength : 2 ≤ s.length := by simp_all
    have hle := length_unescape_le (s.drop 1).dropLast
    simp only [List.length_dropLast, List.length_drop] at hle
    omega
  · cases h

theorem length_strip_le (s : List Char) : (Text.strip s).length ≤ s.length := by
  have hstart := (List.dropWhile_suffix Text.isBlank (l := s)).length_le
  have hend := (List.dropWhile_suffix Text.isBlank (l := (Text.stripStart s).reverse)).length_le
  simp only [Text.strip, Text.stripEnd, List.length_reverse] at hend ⊢
  exact hend.trans hstart

/-- A text comes back from behind an equals sign if it is bare, and only then. -/
theorem readValue_returns_iff (name text : List Char) :
    (∃ a, readValue name (Text.strip text) = .ok (some a) ∧ a.value = String.ofList text) ↔
      IsBare text := by
  constructor
  · rintro ⟨a, hread, hvalue⟩
    cases hquoted : a.quoted with
    | false =>
      have hbare := (isBare_of_readValue hread).2 hquoted
      rwa [hvalue, String.toList_ofList] at hbare
    | true =>
      -- What has stood in quotes is shorter.
      unfold readValue at hread
      split at hread
      · split at hread
        · rename_i s hs
          cases hread
          have hlt := length_lt_of_unquote hs
          have hle := length_strip_le text
          have hlength := congrArg (·.toList.length) hvalue
          simp only [String.toList_ofList] at hlength
          omega
        · cases hread
      · cases hread
        cases hquoted
  · intro hbare
    have hstrip : Text.strip text = text :=
      Text.strip_eq_self (fun c hc => (hbare.first c hc).1) hbare.last
    have hhead : text.head? ≠ some '"' := fun h => (hbare.first _ h).2 rfl
    exact ⟨_, by rw [hstrip, readValue, if_neg hhead], rfl⟩

theorem readValue_ne_none (name value : List Char) : readValue name value ≠ .ok none := by
  unfold readValue
  split
  · split <;> simp
  · simp

/-! ### Assignments -/

theorem exists_line_of_mem_assignments {a : Assignment} {lead : List Char} {lines : List (List Char)}
    (h : a ∈ assignments lead lines) : ∃ raw ∈ lines, readLine lead raw = .ok (some a) := by
  obtain ⟨raw, hraw, ha⟩ := List.mem_filterMap.mp h
  split at ha
  · rename_i hread
    rw [ha] at hread
    exact ⟨raw, hraw, hread⟩
  · cases ha

/-- Only under a word are there assignments. -/
theorem isWord_lead_of_readLine {a : Assignment} {lead raw : List Char}
    (h : readLine lead raw = .ok (some a)) : IsWord lead := by
  have hlead : ∀ name, IsWord (lead ++ name) → IsWord lead := fun name hword c hc =>
    hword c (List.mem_append_left name hc)
  rcases readLine_cases h with ⟨name, hunset, -⟩ | ⟨name, value, hsplit, -⟩
  · exact hlead name (isWord_of_unsetName hunset)
  · exact hlead name (isWord_of_splitAssignment hsplit)

theorem exists_mem_of_lastText {name x : String} {as : List Assignment} (h : lastText name as = some x) :
    ∃ a ∈ as, a.value = x := by
  obtain ⟨a, ha, rfl⟩ := Option.map_eq_some_iff.mp h
  exact ⟨a, (List.mem_filter.mp (List.mem_of_getLast? ha)).1, rfl⟩

/-- What has been read of a document is a text on one line, and stands behind a word. -/
theorem onOneLine_of_lastText {name x lead text : String}
    (h : lastText name (assignments lead.toList (Text.lines text.toList)) = some x) :
    Text.OnOneLine x ∧ IsWord lead.toList := by
  obtain ⟨a, ha, rfl⟩ := exists_mem_of_lastText h
  obtain ⟨raw, hraw, hread⟩ := exists_line_of_mem_assignments ha
  refine ⟨fun c hc => ?_, isWord_lead_of_readLine hread⟩
  rcases mem_of_readLine hread hc with hc | rfl
  · exact Text.not_isLineBreak_of_mem_lines hraw c hc
  · decide

/-- Of the assignments for different names, each is the last one for its own. -/
theorem lastText_filterMap {α : Type} {name : α → String} {f : α → Option Assignment} {xs : List α}
    (hf : ∀ x ∈ xs, ∀ a, f x = some a → a.name = name x) (hd : (xs.map name).Nodup) {x : α}
    (hx : x ∈ xs) : lastText (name x) (xs.filterMap f) = (f x).map (·.value) := by
  have hothers : ∀ ys : List α, (∀ y ∈ ys, y ∈ xs ∧ name y ≠ name x) →
      (ys.filterMap f).filter (·.name = name x) = [] := by
    intro ys hys
    refine List.filter_eq_nil_iff.mpr fun a ha => ?_
    obtain ⟨y, hy, hfy⟩ := List.mem_filterMap.mp ha
    simpa [hf y (hys y hy).1 a hfy] using (hys y hy).2
  have hfx := hf x hx
  obtain ⟨before, behind, rfl⟩ := List.append_of_mem hx
  simp only [List.map_append, List.map_cons, List.nodup_append, List.nodup_cons] at hd
  obtain ⟨-, ⟨hbehind, -⟩, hbefore⟩ := hd
  -- Names are not repeated, so nothing in front of the element or behind it has its name.
  have hnone₁ := hothers before fun y hy =>
    ⟨by simp [hy], hbefore _ (List.mem_map_of_mem hy) _ (by simp)⟩
  have hnone₂ := hothers behind fun y hy =>
    ⟨by simp [hy], fun hname => hbehind (hname ▸ List.mem_map_of_mem hy)⟩
  rw [lastText, List.filterMap_append, List.filterMap_cons, List.filter_append, hnone₁, List.nil_append]
  cases hsome : f x with
  | none => simp [hnone₂]
  | some a => simp [hfx a hsome, hnone₂]

/-- A document without a fault is one all of whose lines can be read. -/
theorem failure_eq_none_iff {lead : List Char} (number : Nat) {lines : List (List Char)} :
    (readLines lead number lines).failure = none ↔
      ∀ raw ∈ lines, ∀ cause, readLine lead raw ≠ .error cause := by
  constructor
  · intro h
    fun_induction readLines lead number lines with
    | case1 => simp
    | case2 => cases h
    | case3 number raw rest hread ih => simpa [hread] using ih h
    | case4 number raw rest a hread d ih => simpa [hread] using ih h
  · intro h
    rw [readLines_eq_lineEntries h]

end Dotconfig

/-! ### Symbols -/

namespace Symbol

/-- What a symbol reads as that has nothing but a text stored in it, or nothing. -/
theorem text_of_stored {s s' : Symbol} {x : Option String} (hreset : s'.reset = s.reset)
    (hvalue : s'.value = x.map .auto) : s'.text = x.getD s.reset.text := by
  cases x with
  | none =>
    have htype : s'.type = s.type := type_eq_of_reset hreset
    cases hswitch : s.type.isSwitch <;> simp [text, hvalue, reset, htype, hswitch]
  | some x => simp [text, hvalue, SymbolValue.text]

theorem isBare_text_reset (s : Symbol) : IsBare s.reset.text.toList := by
  cases hswitch : s.type.isSwitch with
  | true =>
    have htext : s.reset.text = "n" := by simp [text, reset, hswitch]
    rw [htext]
    refine ⟨?_, ?_⟩ <;> rintro c ⟨⟩ <;> decide
  | false =>
    have htext : s.reset.text = "" := by simp [text, reset, hswitch]
    rw [htext]
    refine ⟨?_, ?_⟩ <;> rintro c ⟨⟩

end Symbol

namespace SymbolTable

/-- A source that is stored as it is gives a symbol without value the last text that it has for it. -/
theorem value_of_stored {t : SymbolTable} {s : Symbol} (hs : t.symbol? s.name = some s)
    (hnone : s.value = none) (source : String) (lead : List Char) (lines : List (List Char)) :
    (((lineEntries lead 1 lines).filterMap fun e => t.stored? e.name e.value source).foldl
      Symbol.undergo s).value = (lastText s.name (assignments lead lines)).map .auto := by
  have hvalue := (s.records_foldl_undergo
    ((lineEntries lead 1 lines).filterMap fun e => t.stored? e.name e.value source)).value
  have hbefore : ∀ log, (s.before log).value = none := by
    intro log
    unfold Symbol.before
    split
    · rfl
    · exact hnone
  rw [hvalue, hbefore, writesSinceReset_stored hs, List.getLast?_map, Option.map_map, Option.or_none,
    ← Dotconfig.lastText_lineEntries s.name lead 1 lines, Option.map_map]
  rfl

/-! ### The dump -/

/-- The line of a symbol, read again. -/
def reread (lead : String) (s : Symbol) : Except LineFault (Option Assignment) :=
  match dumpLine lead s with
  | some line => readLine lead.toList line.toList
  | none => .ok none

theorem reread_of_unassigned (lead : String) {s : Symbol} (h : s.value = none) :
    reread lead s = .ok none := by
  rw [reread, dumpLine_of_unassigned lead h]

section Stored

variable {lead x : String} {s : Symbol}

/-- The line of a symbol in which a text has been stored: the comment that a switch is not set, the text in
quotes, or the text as it is. -/
theorem dumpLine_cases (hv : s.value = some (.auto x)) (lead : String) :
    (s.type.isSwitch = true ∧ x = "n" ∧ dumpLine lead s = some ("# " ++ lead ++ s.name ++ " is not set")) ∨
    (s.type = .string ∧ dumpLine lead s = some (lead ++ s.name ++ "=" ++ Dotconfig.quoteText x)) ∨
    (s.type ≠ .string ∧ dumpLine lead s = some (lead ++ s.name ++ "=" ++ x)) := by
  have htext : s.text = x := by simp [Symbol.text, hv, SymbolValue.text]
  by_cases hn : s.type.isSwitch = true ∧ x = "n"
  · exact .inl ⟨hn.1, hn.2, by simp [dumpLine, hv, htext, hn]⟩
  · by_cases hstring : s.type = .string
    · exact .inr (.inl ⟨hstring, by simp [dumpLine, hv, htext, hstring, SymbolType.isSwitch]⟩)
    · exact .inr (.inr ⟨hstring, by simp [dumpLine, hv, htext, hstring, hn]⟩)

variable (hl : IsWord lead.toList) (hw : IsWord s.name.toList) (hne : s.name ≠ "")
  (hv : s.value = some (.auto x)) (hx : Text.OnOneLine x)

include hl hw hne hv hx

theorem onOneLine_dumpLine {line : String} (hline : dumpLine lead s = some line) :
    Text.OnOneLine line := by
  have hne' : s.name.toList ≠ [] := by simpa using hne
  rcases dumpLine_cases hv lead with ⟨-, -, h⟩ | ⟨-, h⟩ | ⟨-, h⟩ <;> cases hline.symm.trans h
  · exact (readsAs_unset hl hw hne').1
  · exact (readsAs_quoted hl hw (List.append_ne_nil_of_right_ne_nil _ hne') hx).1
  · exact onOneLine_assignment hl hw hx

/-- The line of a symbol says something about this symbol, unless it cannot be read; and it says what is
stored exactly if that is a string or bare. -/
theorem reread_stored : reread lead s ≠ .ok none ∧
    (∀ a, reread lead s = .ok (some a) → a.name = s.name) ∧
    ((∃ a, reread lead s = .ok (some a) ∧ a.value = x) ↔ s.type = .string ∨ IsBare x.toList) := by
  have hne' : s.name.toList ≠ [] := by simpa using hne
  have hword := Dotconfig.isWord_append hl hw
  have hboth : lead.toList ++ s.name.toList ≠ [] := List.append_ne_nil_of_right_ne_nil _ hne'
  -- The comment and the quoted text are read back whatever the text is; only a bare one has a condition.
  have hone : ∀ a, reread lead s = .ok (some a) → a.name = s.name → a.value = x →
      (s.type = .string ∨ IsBare x.toList) → reread lead s ≠ .ok none ∧
        (∀ a, reread lead s = .ok (some a) → a.name = s.name) ∧
        ((∃ a, reread lead s = .ok (some a) ∧ a.value = x) ↔ s.type = .string ∨ IsBare x.toList) := by
    intro a ha hname hvalue hkept
    rw [ha]
    exact ⟨by simp, fun a' ha' => by cases ha'; exact hname, fun _ => hkept, fun _ => ⟨a, rfl, hvalue⟩⟩
  rcases dumpLine_cases hv lead with ⟨hswitch, rfl, hline⟩ | ⟨hstring, hline⟩ | ⟨hstring, hline⟩
  · refine hone ⟨s.name, "n", false⟩ ?_ rfl rfl (.inr ?_)
    · rw [reread, hline]
      exact (readsAs_unset hl hw hne').2
    · refine ⟨?_, ?_⟩ <;> rintro c ⟨⟩ <;> decide
  · refine hone ⟨s.name, x, true⟩ ?_ rfl rfl (.inl hstring)
    rw [reread, hline]
    exact (readsAs_quoted hl hw hboth hx).2
  · have hread : reread lead s = readValue s.name.toList (Text.strip x.toList) := by
      have hchars : (lead ++ s.name ++ "=" ++ x).toList = lead.toList ++ s.name.toList ++ '=' :: x.toList := by
        simp [String.toList_append]
      rw [reread, hline]
      dsimp only
      rw [hchars, Dotconfig.readLine_assigning hword hboth]
    have hreturns := Dotconfig.readValue_returns_iff s.name.toList x.toList
    rw [String.ofList_toList] at hreturns
    rw [hread, hreturns]
    refine ⟨Dotconfig.readValue_ne_none _ _, fun a ha => ?_, fun h => .inr h, fun h => ?_⟩
    · rw [(Dotconfig.isBare_of_readValue ha).1, String.ofList_toList]
    · exact h.resolve_left hstring

end Stored

/-- The lines of a dump say what the lines of its symbols say. -/
theorem assignments_dump {lead : String} {t : SymbolTable}
    (h : ∀ s ∈ t.symbols, ∀ line, dumpLine lead s = some line → Text.OnOneLine line) :
    assignments lead.toList (Text.lines (t.dump lead).toList) =
      t.symbols.filterMap fun s => (reread lead s).toOption.join := by
  rw [lines_dump h, assignments, List.filterMap_map, List.filterMap_filterMap]
  refine List.filterMap_congr fun s _ => ?_
  cases hline : dumpLine lead s with
  | none => simp [reread, hline, Except.toOption]
  | some line =>
    simp only [reread, hline, Option.bind_some, Function.comp_apply]
    cases readLine lead.toList line.toList <;> rfl

theorem failure_dump_eq_none_iff {lead : String} {t : SymbolTable}
    (h : ∀ s ∈ t.symbols, ∀ line, dumpLine lead s = some line → Text.OnOneLine line) :
    (Dotconfig.read lead (t.dump lead)).failure = none ↔
      ∀ s ∈ t.symbols, ∀ cause, reread lead s ≠ .error cause := by
  rw [Dotconfig.read, Dotconfig.failure_eq_none_iff, lines_dump h]
  simp only [List.mem_map, List.mem_filterMap, forall_exists_index, and_imp]
  constructor
  · intro hall s hs cause
    cases hline : dumpLine lead s with
    | none => simp [reread, hline]
    | some line => simpa [reread, hline] using hall _ line s hs hline rfl cause
  · rintro hall _ line s hs hline rfl cause
    simpa [reread, hline] using hall s hs cause

/-- What a symbol that a document has been stored in has as its value: nothing, or a text of one line, and
then the prefix is a word. -/
def Holds (lead : String) (s : Symbol) : Prop :=
  s.value = none ∨ ∃ x, s.value = some (.auto x) ∧ Text.OnOneLine x ∧ IsWord lead.toList

theorem onOneLine_of_holds {lead : String} {s : Symbol} (hs : Holds lead s) (hw : IsWord s.name.toList)
    (hne : s.name ≠ "") {line : String} (hline : dumpLine lead s = some line) : Text.OnOneLine line := by
  rcases hs with hnone | ⟨x, hv, hx, hl⟩
  · rw [dumpLine_of_unassigned lead hnone] at hline
    cases hline
  · exact onOneLine_dumpLine hl hw hne hv hx hline

theorem name_of_reread {lead : String} {s : Symbol} (hs : Holds lead s) (hw : IsWord s.name.toList)
    (hne : s.name ≠ "") {a : Assignment} (h : reread lead s = .ok (some a)) : a.name = s.name := by
  rcases hs with hnone | ⟨x, hv, hx, hl⟩
  · rw [reread_of_unassigned lead hnone] at h
    cases h
  · exact (reread_stored hl hw hne hv hx).2.1 a h

/-- The line of a symbol gives its text back exactly if the symbol is a string or its text is bare. -/
theorem reread_returns_iff {lead : String} {s : Symbol} (hs : Holds lead s) (hw : IsWord s.name.toList)
    (hne : s.name ≠ "") :
    (∀ cause, reread lead s ≠ .error cause) ∧
        (((reread lead s).toOption.join).map (·.value)).getD s.reset.text = s.text ↔
      (s.type ≠ .string → IsBare s.text.toList) := by
  rcases hs with hnone | ⟨x, hv, hx, hl⟩
  · have htext : s.text = s.reset.text := Symbol.text_of_stored (x := none) rfl hnone
    rw [reread_of_unassigned lead hnone, htext]
    simp [Except.toOption, Symbol.isBare_text_reset]
  · have htext : s.text = x := Symbol.text_of_stored (x := some x) rfl hv
    obtain ⟨hassigns, -, hreturns⟩ := reread_stored hl hw hne hv hx
    rw [htext, ← or_iff_not_imp_left, ← hreturns]
    cases hread : reread lead s with
    | error cause => simp
    | ok a =>
      cases a with
      | none => exact absurd hread hassigns
      | some a => simp [Except.toOption]

end SymbolTable

/-! ### Loads -/

namespace Apply

open SymbolTable

variable {w : Surroundings} {path : Files.Path} {lead : String} {state loaded : ApplyState}

/-- What a load that ends well has found: a text all of whose lines can be read. -/
theorem exists_text_of_unchecked_ok (hd : state.table.Distinct)
    (h : unchecked w path lead state = (.ok (), loaded)) :
    ∃ text, w.files.readText path = .ok text ∧ (Dotconfig.read lead text).failure = none := by
  cases hread : w.files.readText path with
  | error e =>
    obtain ⟨e', hfails⟩ := readSource_run_error hread .symbolFile state
    rw [unchecked, bind_run_error hfails] at h
    cases h
  | ok text =>
    refine ⟨text, rfl, ?_⟩
    cases hfailure : (Dotconfig.read lead text).failure with
    | none => rfl
    | some f =>
      obtain ⟨logger, hrun⟩ := unchecked_run_of_read hd hread lead
      rw [hrun, hfailure] at h
      cases h

/-- A load gives each symbol without value the last text that the document has for it. -/
theorem symbols_of_unchecked {text : String} (hd : state.table.Distinct)
    (hunset : ∀ s ∈ state.table.symbols, s.value = none)
    (hread : w.files.readText path = .ok text) (hfailure : (Dotconfig.read lead text).failure = none)
    (h : unchecked w path lead state = (.ok (), loaded)) :
    ∃ f : Symbol → Symbol, loaded.table.symbols = state.table.symbols.map f ∧
      ∀ s ∈ state.table.symbols, (f s).reset = s.reset ∧ (f s).value =
        (lastText s.name (assignments lead.toList (Text.lines text.toList))).map .auto := by
  obtain ⟨logger, hrun⟩ := unchecked_run (w := w) hd hread hfailure
  obtain rfl := (Prod.ext_iff.mp (h.symm.trans hrun)).2
  have hentries : (Dotconfig.read lead text).entries =
      lineEntries lead.toList 1 (Text.lines text.toList) := by
    have hlines := (Dotconfig.failure_eq_none_iff 1).mp hfailure
    exact congrArg (·.entries) (Dotconfig.readLines_eq_lineEntries hlines 1)
  simp only [fileEffects, hread, hentries]
  exact ⟨_, rfl, fun s hs => ⟨Symbol.reset_foldl_undergo _ _,
    value_of_stored (symbol?_name hd hs) (hunset s hs) path.toString lead.toList _⟩⟩

/-- What is read of a table into which a document has been loaded. -/
theorem snapshot_of_unchecked {text : String} (hd : state.table.Distinct)
    (hunset : ∀ s ∈ state.table.symbols, s.value = none)
    (hread : w.files.readText path = .ok text) (hfailure : (Dotconfig.read lead text).failure = none)
    (h : unchecked w path lead state = (.ok (), loaded)) :
    loaded.table.snapshot = (state.table.symbols.map Symbol.reset).map fun s =>
      (s.name, (lastText s.name (assignments lead.toList (Text.lines text.toList))).getD s.text) := by
  obtain ⟨f, hsymbols, hf⟩ := symbols_of_unchecked hd hunset hread hfailure h
  rw [snapshot, hsymbols, List.map_map, List.map_map]
  refine List.map_congr_left fun s hs => ?_
  obtain ⟨hreset, hvalue⟩ := hf s hs
  exact Prod.ext (Symbol.name_eq_of_reset hreset) (Symbol.text_of_stored hreset hvalue)

/-- The dump of a table in which documents have been stored, loaded into one that is declared alike. -/
theorem dump_restores_iff {t : SymbolTable} {fresh : ApplyState} (hd : t.Distinct)
    (hnames : ∀ name ∈ t.names, name ≠ "" ∧ IsWord name.toList)
    (hholds : ∀ s ∈ t.symbols, Holds lead s) (hfresh : t.DeclaredAlike fresh.table)
    (hunset : ∀ s ∈ fresh.table.symbols, s.value = none)
    (hfile : w.files.readBytes path = .ok (Text.utf8 (t.dump lead))) :
    (∃ reloaded, unchecked w path lead fresh = (.ok (), reloaded) ∧
        reloaded.table.snapshot = t.snapshot) ↔
      ∀ s ∈ t.symbols, s.type ≠ .string → IsBare s.text.toList := by
  have hnamed : ∀ s ∈ t.symbols, s.name ≠ "" ∧ IsWord s.name.toList := fun s hs =>
    hnames _ (List.mem_map_of_mem hs)
  have hone : ∀ s ∈ t.symbols, ∀ line, dumpLine lead s = some line → Text.OnOneLine line :=
    fun s hs line hline => onOneLine_of_holds (hholds s hs) (hnamed s hs).2 (hnamed s hs).1 hline
  let text := String.ofList (Text.universalNewlines (t.dump lead).toList)
  have hread : w.files.readText path = .ok text := by
    rw [Files.Tree.readText, hfile]
    simp only [Text.decodeUtf8_utf8]
    rfl
  have hfailure : (Dotconfig.read lead text).failure = none ↔
      ∀ s ∈ t.symbols, ∀ cause, reread lead s ≠ .error cause := by
    rw [Dotconfig.read_universalNewlines, failure_dump_eq_none_iff hone]
  have hassigns : assignments lead.toList (Text.lines text.toList) =
      t.symbols.filterMap fun s => (reread lead s).toOption.join := by
    rw [String.toList_ofList, Text.lines_universalNewlines, assignments_dump hone]
  -- Both tables are read symbol by symbol; the reloaded one holds the last text of the dump for each.
  have hsame : ∀ reloaded, (Dotconfig.read lead text).failure = none →
      unchecked w path lead fresh = (.ok (), reloaded) →
      (reloaded.table.snapshot = t.snapshot ↔ ∀ s ∈ t.symbols,
        (((reread lead s).toOption.join).map (·.value)).getD s.reset.text = s.text) := by
    intro reloaded hnone hreload
    rw [snapshot_of_unchecked (hfresh.distinct hd) hunset hread hnone hreload, hfresh, hassigns, snapshot,
      List.map_map]
    refine List.map_inj_left.trans (forall₂_congr fun s hs => ?_)
    have hown : ∀ s ∈ t.symbols, ∀ a, (reread lead s).toOption.join = some a → a.name = s.name := by
      intro s hs a ha
      refine name_of_reread (hholds s hs) (hnamed s hs).2 (hnamed s hs).1 ?_
      cases hreread : reread lead s with
      | error cause => simp [hreread, Except.toOption] at ha
      | ok a => simpa [hreread, Except.toOption] using ha
    have hlast := Dotconfig.lastText_filterMap hown hd hs
    show (s.name, _) = (s.name, _) ↔ _
    rw [Prod.mk_right_inj]
    exact iff_of_eq (congrArg (fun x => x.getD s.reset.text = s.text) hlast)
  constructor
  · rintro ⟨reloaded, hreload, hsnapshot⟩
    obtain ⟨text', htext', hnone⟩ := exists_text_of_unchecked_ok (hfresh.distinct hd) hreload
    cases hread.symm.trans htext'
    exact fun s hs => (reread_returns_iff (hholds s hs) (hnamed s hs).2 (hnamed s hs).1).mp
      ⟨hfailure.mp hnone s hs, (hsame reloaded hnone hreload).mp hsnapshot s hs⟩
  · intro hbare
    have hreturns := fun s hs =>
      (reread_returns_iff (hholds s hs) (hnamed s hs).2 (hnamed s hs).1).mpr (hbare s hs)
    have hnone := hfailure.mpr fun s hs => (hreturns s hs).1
    obtain ⟨logger, hrun⟩ := unchecked_run (w := w) (hfresh.distinct hd) hread hnone
    exact ⟨_, hrun, (hsame _ hnone hrun).mpr fun s hs => (hreturns s hs).2⟩

/-- A document that has been loaded as it is into a table without values, and what is then dumped loaded
into another one that is declared alike. That succeeds and leaves the same texts, symbol by symbol, if
and only if each symbol that is no string has a text that can stand without quotes: one that neither
begins nor ends with a blank and does not begin with a quote. -/
theorem loaded_dump_restores_iff {w w' : Surroundings} {path path' : Files.Path} {lead : String}
    {state fresh loaded : ApplyState} (hd : state.table.Distinct)
    (hnames : ∀ name ∈ state.table.names, name ≠ "" ∧ IsWord name.toList)
    (hunset : ∀ s ∈ state.table.symbols, s.value = none)
    (hload : unchecked w path lead state = (.ok (), loaded))
    (hfresh : state.table.DeclaredAlike fresh.table) (hunset' : ∀ s ∈ fresh.table.symbols, s.value = none)
    (hfile : w'.files.readBytes path' = .ok (Text.utf8 (loaded.table.dump lead))) :
    (∃ reloaded, unchecked w' path' lead fresh = (.ok (), reloaded) ∧
        reloaded.table.snapshot = loaded.table.snapshot) ↔
      ∀ s ∈ loaded.table.symbols, s.type ≠ .string → IsBare s.text.toList := by
  obtain ⟨text, hread, hfailure⟩ := exists_text_of_unchecked_ok hd hload
  obtain ⟨f, hsymbols, hf⟩ := symbols_of_unchecked hd hunset hread hfailure hload
  have halike : loaded.table.DeclaredAlike state.table := by
    rw [DeclaredAlike, hsymbols, List.map_map]
    exact List.map_congr_left fun s hs => (hf s hs).1.symm
  have hnames' : loaded.table.names = state.table.names := by
    rw [names, names, hsymbols, List.map_map]
    exact List.map_congr_left fun s hs => Symbol.name_eq_of_reset (hf s hs).1
  refine dump_restores_iff (by rwa [Distinct, hnames']) (by rwa [hnames']) (fun s' hs' => ?_)
    (hfresh.trans halike) hunset' hfile
  rw [hsymbols] at hs'
  obtain ⟨s, hs, rfl⟩ := List.mem_map.mp hs'
  have hvalue := (hf s hs).2
  cases hlast : lastText s.name (assignments lead.toList (Text.lines text.toList)) with
  | none => exact .inl (by rw [hvalue, hlast]; rfl)
  | some x => exact .inr ⟨x, by rw [hvalue, hlast]; rfl, Dotconfig.onOneLine_of_lastText hlast⟩

/-- A number and a string, of which nothing is known yet. -/
def plainStart : ApplyState where
  table := { symbols := [{ name := "N", type := .number }, { name := "G", type := .string }] }

/-- A file that assigns texts, and the one that is dumped when the first has been loaded. -/
def filesOf (text dump : String) : Surroundings where
  files := ⟨[(["a"], .file (Text.utf8 text)), (["b"], .file (Text.utf8 dump))]⟩

def spacedText : String := "CONFIG_N=\"1 2\"\nCONFIG_G=\" \\\"x\"\n"

def spacedDump : String := "CONFIG_N=1 2\nCONFIG_G=\" \\\"x\"\n"

theorem loaded_dump_restores_spaced : ∃ loaded reloaded,
    unchecked (filesOf spacedText spacedDump) (.ofString "a") "CONFIG_" plainStart = (.ok (), loaded) ∧
    loaded.table.snapshot = [("N", "1 2"), ("G", " \"x")] ∧
    loaded.table.dump "CONFIG_" = spacedDump ∧
    unchecked (filesOf spacedText spacedDump) (.ofString "b") "CONFIG_" plainStart = (.ok (), reloaded) ∧
    reloaded.table.snapshot = loaded.table.snapshot := by
  have hd : plainStart.table.Distinct := by decide
  have hread : (filesOf spacedText spacedDump).files.readText (.ofString "a") = .ok spacedText := by
    simp only [Files.Tree.readText, Files.Tree.readBytes, String.contains_char_eq]
    decide +kernel
  have hfile : (filesOf spacedText spacedDump).files.readBytes (.ofString "b") =
      .ok (Text.utf8 spacedDump) := by
    simp only [Files.Tree.readBytes, String.contains_char_eq]
    decide +kernel
  have hlog : plainStart.table.fileEffects (filesOf spacedText spacedDump).files (.ofString "a") "CONFIG_" =
      [.write "N" (.auto "1 2") ⟨"a", none⟩, .write "G" (.auto " \"x") ⟨"a", none⟩] := by
    rw [fileEffects, hread]
    decide +kernel
  obtain ⟨loaded, hload, htable⟩ : ∃ loaded,
      unchecked (filesOf spacedText spacedDump) (.ofString "a") "CONFIG_" plainStart = (.ok (), loaded) ∧
        loaded.table = plainStart.table.undergo
          [.write "N" (.auto "1 2") ⟨"a", none⟩, .write "G" (.auto " \"x") ⟨"a", none⟩] := by
    have hnone : (Dotconfig.read "CONFIG_" spacedText).failure = none := by decide +kernel
    obtain ⟨logger, hrun⟩ := unchecked_run hd hread hnone
    exact ⟨_, hrun, by rw [hlog]⟩
  have hdump : loaded.table.dump "CONFIG_" = spacedDump := by
    rw [htable]
    decide +kernel
  have hbare : ∀ s ∈ loaded.table.symbols, s.type ≠ .string → IsBare s.text.toList := by
    rw [htable]
    rintro s hs hstring
    obtain rfl | rfl : s = _ ∨ s = _ := by simpa [SymbolTable.undergo, plainStart] using hs
    · refine ⟨?_, ?_⟩ <;> rintro c ⟨⟩ <;> decide
    · exact absurd rfl hstring
  obtain ⟨reloaded, hreload, hsame⟩ := (loaded_dump_restores_iff hd (by decide) (by decide) hload rfl
    (by decide) (by rw [hfile, hdump])).mpr hbare
  refine ⟨loaded, reloaded, hload, ?_, hdump, hreload, hsame⟩
  rw [htable]
  decide +kernel

/-- A text in quotes that begins with one, stored in a number, is dumped as it is; what is written so is
no string that ends. -/
theorem quoted_number_is_not_restored :
    let surroundings := filesOf "CONFIG_N=\"\\\"x\"\n" "CONFIG_N=\"x\n"
    ∃ loaded fault stopped,
      unchecked surroundings (.ofString "a") "CONFIG_" plainStart = (.ok (), loaded) ∧
      loaded.table.snapshot = [("N", "\"x"), ("G", "")] ∧
      surroundings.files.readBytes (.ofString "b") = .ok (Text.utf8 (loaded.table.dump "CONFIG_")) ∧
      unchecked surroundings (.ofString "b") "CONFIG_" plainStart = (.error (.fault fault), stopped) ∧
      fault.message = "b:1: unterminated string" := by
  intro surroundings
  have hd : plainStart.table.Distinct := by decide
  have hread : surroundings.files.readText (.ofString "a") = .ok "CONFIG_N=\"\\\"x\"\n" := by
    simp only [Files.Tree.readText, Files.Tree.readBytes, String.contains_char_eq]
    decide +kernel
  have hread' : surroundings.files.readText (.ofString "b") = .ok "CONFIG_N=\"x\n" := by
    simp only [Files.Tree.readText, Files.Tree.readBytes, String.contains_char_eq]
    decide +kernel
  have hfile : surroundings.files.readBytes (.ofString "b") = .ok (Text.utf8 "CONFIG_N=\"x\n") := by
    simp only [Files.Tree.readBytes, String.contains_char_eq]
    decide +kernel
  have hlog : plainStart.table.fileEffects surroundings.files (.ofString "a") "CONFIG_" =
      [.write "N" (.auto "\"x") ⟨"a", none⟩] := by
    rw [fileEffects, hread]
    decide +kernel
  have hfails : unchecked surroundings (.ofString "b") "CONFIG_" plainStart =
      (.error (.fault ((Dotconfig.DocumentFault.mk 1 .unterminated).fault "b")), plainStart) := by
    have hdocument : Dotconfig.read "CONFIG_" "CONFIG_N=\"x\n" = ⟨[], some ⟨1, .unterminated⟩⟩ := by
      decide +kernel
    rw [unchecked, bind_run_ok (readSource_run hread' .symbolFile _), hdocument]
    rfl
  have hnone : (Dotconfig.read "CONFIG_" "CONFIG_N=\"\\\"x\"\n").failure = none := by decide +kernel
  obtain ⟨logger, hload⟩ := unchecked_run hd hread hnone
  rw [hlog] at hload
  refine ⟨_, _, _, hload, ?_, ?_, hfails, by decide +kernel⟩
  · show (plainStart.table.undergo _).snapshot = _
    decide +kernel
  · rw [hfile]
    show Except.ok _ = Except.ok (Text.utf8 ((plainStart.table.undergo _).dump "CONFIG_"))
    decide +kernel

end Apply

end KernelConfig
