import KernelConfig.Proofs.Apply.Histories

/-!
Files applied as they are: where the checked apply of a file succeeds, the unchecked one writes the same
symbols, and each text that it stores is coerced to the value that the checked one has stored.
-/

set_option autoImplicit false

namespace KernelConfig

open Dotconfig (Entry entriesFor lineEntries readLine readLines)

/-- Lines that can all be read make a document of their assignments. -/
theorem Dotconfig.readLines_eq_lineEntries {lead : List Char} {lines : List (List Char)}
    (h : ∀ raw ∈ lines, ∀ cause, readLine lead raw ≠ .error cause) (number : Nat) :
    readLines lead number lines = ⟨lineEntries lead number lines, none⟩ := by
  induction lines generalizing number with
  | nil => rfl
  | cons raw lines ih =>
    simp only [List.mem_cons, forall_eq_or_imp] at h
    cases hread : readLine lead raw with
    | error cause => exact absurd hread (h.1 cause)
    | ok a =>
      cases a with
      | none => rw [readLines, hread, lineEntries_cons_none hread, ih h.2]
      | some a =>
        rw [readLines, hread, lineEntries_cons_some hread]
        dsimp only
        rw [ih h.2]

/-! ### Symbols -/

/-- A log of stored texts has one write for each entry that names the symbol. -/
theorem writesSinceReset_stored {t : SymbolTable} {name : String} {s : Symbol}
    (hs : t.symbol? name = some s) (source : String) (es : List Entry) :
    writesSinceReset name (es.filterMap fun e => t.stored? e.name e.value source) =
      (entriesFor name es).map fun e => ⟨.auto e.value, ⟨source, none⟩⟩ := by
  induction es using List.reverseRecOn with
  | nil => rfl
  | append_singleton es e ih =>
    have hentries : entriesFor name (es ++ [e]) = entriesFor name es ++ entriesFor name [e] := by
      simp [entriesFor]
    rw [List.filterMap_append, hentries, List.map_append, ← ih]
    by_cases hn : e.name = name
    · subst hn
      have hone : [e].filterMap (fun e => t.stored? e.name e.value source) =
          [.write e.name (.auto e.value) ⟨source, none⟩] := by
        simp [SymbolTable.stored?, hs]
      rw [hone]
      simp [writesSinceReset_append, Effect.writeTo?, entriesFor]
    · cases hstored : t.stored? e.name e.value source with
      | none => simp [hstored, entriesFor, hn]
      | some effect =>
        obtain ⟨s', -, rfl⟩ := Option.map_eq_some_iff.mp hstored
        have hone : [e].filterMap (fun e => t.stored? e.name e.value source) =
            [.write e.name (.auto e.value) ⟨source, none⟩] := by
          simp [hstored]
        rw [hone]
        simp [writesSinceReset_append, Effect.writeTo?, entriesFor, hn]

namespace Symbol

theorem eq_of_reset {s s' : Symbol} (hreset : s'.reset = s.reset) (hvalue : s'.value = s.value)
    (hhistory : s'.history = s.history) : s' = s := by
  obtain ⟨name, type, hex, range, value, history⟩ := s
  obtain ⟨name', type', hex', range', value', history'⟩ := s'
  simp only [reset, mk.injEq] at hreset hvalue hhistory
  obtain ⟨rfl, rfl, rfl, rfl, -⟩ := hreset
  rw [hvalue, hhistory]

/-- What a source makes of a symbol, checked and as it is: the same entries have been noted, and the
last of them has given the one its value and the other the text of it. -/
structure Parallel (source : String) (es : List Entry) (s checked raw : Symbol) : Prop where
  checkedHistory : checked.history =
    ((entriesFor s.name es).map (Entry.provenance source)).reverse ++ s.history
  rawHistory : raw.history =
    ((entriesFor s.name es).map fun _ => ⟨source, none⟩).reverse ++ s.history
  untouched : entriesFor s.name es = [] → checked = s ∧ raw = s
  value : ∀ e, (entriesFor s.name es).getLast? = some e → raw.value = some (.auto e.value) ∧
    ∃ v, checked.value = some v ∧ ∀ p, raw.set (.auto e.value) p = .ok (raw.record v p)

variable {source : String} {es : List Entry} {s s₁ s₂ : Symbol}

theorem Assigned.parallel {t : SymbolTable} (hs : t.symbol? s.name = some s)
    (hassigned : s.Assigned source es s₁)
    (hrecords : s.Records (es.filterMap fun e => t.stored? e.name e.value source) s₂) :
    s.Parallel source es s₁ s₂ := by
  have hwrites := writesSinceReset_stored hs source es
  have hbefore : s.before (es.filterMap fun e => t.stored? e.name e.value source) = s := by
    refine if_neg fun hclear => ?_
    obtain ⟨e, -, he⟩ := List.mem_filterMap.mp hclear
    simp [SymbolTable.stored?] at he
  obtain ⟨hreset, hhistory, hvalue⟩ := hrecords
  rw [hwrites, hbefore] at hhistory hvalue
  rw [List.map_map] at hhistory
  refine ⟨hassigned.history, hhistory, fun hnone => ⟨?_, ?_⟩, fun e he => ?_⟩
  · refine eq_of_reset hassigned.declaration (hassigned.untouched hnone) ?_
    simp [hassigned.history, hnone]
  · refine eq_of_reset hreset ?_ ?_
    · simp [hvalue, hnone]
    · simp [hhistory, hnone]
  · obtain ⟨v, hcoerce, hv⟩ := hassigned.value e he
    have hrange : s₂.reset.range = s.reset.range := by rw [hreset]
    have hrange : s₂.range = s.range := hrange
    have haccepts : s₂.coerce (.auto e.value) = .ok v := by
      rw [coerce_eq_ok, type_eq_of_reset hreset, hrange]
      exact hcoerce
    refine ⟨?_, v, hv, fun p => ?_⟩
    · simp [hvalue, List.getLast?_map, he]
    · rw [set, haccepts]
      rfl

end Symbol

/-! ### Files -/

namespace Apply

open SymbolTable

variable {w : Surroundings} {state checkedState : ApplyState} {path : Files.Path}

/-- A checked source that is applied to the end has no bad line. -/
theorem not_stops_of_checked_ok {source text : String} (hd : state.table.Distinct)
    (h : checked w source text state = (.ok (), checkedState)) :
    ∀ raw ∈ Text.lines text.toList, ¬ state.table.Stops w.settings.symbolLead.toList raw := by
  intro raw hraw hstops
  let good (raw : List Char) : Bool := ¬ state.table.Stops w.settings.symbolLead.toList raw
  have hbad : (Text.lines text.toList).dropWhile good ≠ [] := by
    intro hnil
    have hgood := List.dropWhile_eq_nil_iff.mp hnil raw hraw
    simp [good, hstops] at hgood
  obtain ⟨first, rest, hrest⟩ := List.exists_cons_of_ne_nil hbad
  have hfirst := List.head?_dropWhile_not good (Text.lines text.toList)
  rw [hrest] at hfirst
  have hbefore : ∀ line ∈ (Text.lines text.toList).takeWhile good,
      ¬ state.table.Stops w.settings.symbolLead.toList line := fun line hline => by
    simpa [good] using List.mem_takeWhile_imp hline
  obtain ⟨f, logger, -, hfails⟩ := checked_run_of_bad w source hd hbefore
    (by simpa [good] using hfirst)
  have hsplit := List.takeWhile_append_dropWhile (p := good) (l := Text.lines text.toList)
  rw [hrest] at hsplit
  rw [hfails text rest hsplit.symm] at h
  cases h

theorem unchecked_run {text lead : String} (hd : state.table.Distinct)
    (hread : w.files.readText path = .ok text) (hd' : (Dotconfig.read lead text).failure = none) :
    ∃ logger, unchecked w path lead state = (.ok (), { state with
      table := state.table.undergo (state.table.fileEffects w.files path lead)
      logger }) := by
  obtain ⟨logger, hrun⟩ := unchecked_run_of_read hd hread lead
  rw [hd'] at hrun
  exact ⟨logger, hrun⟩

/-- Where a configuration file can be applied with its values checked, it can be applied as it is from
the same state. Both apply the same entries, and symbols that none of them names stay as they are; the
text that the second has stored in a symbol is one that the symbol takes, and takes as the value that
the first has stored. -/
theorem unchecked_parallels_checked (hd : state.table.Distinct)
    (h : (readSource w .configLoad path >>= checked w path.toString) state = (.ok (), checkedState)) :
    ∃ text raw, w.files.readText path = .ok text ∧
      unchecked w path w.settings.symbolLead state = (.ok (), raw) ∧
      checkedState.table.reset = state.table.reset ∧ raw.table.reset = state.table.reset ∧
      ∀ s ∈ state.table.symbols, ∃ s₁ s₂, checkedState.table.symbol? s.name = some s₁ ∧
        raw.table.symbol? s.name = some s₂ ∧
        s.Parallel path.toString (Dotconfig.read w.settings.symbolLead text).entries s₁ s₂ := by
  cases hread : w.files.readText path with
  | error e =>
    obtain ⟨e', hfails⟩ := readSource_run_error hread .configLoad state
    rw [bind_run_error hfails] at h
    cases h
  | ok text =>
    rw [bind_run_ok (readSource_run hread .configLoad state)] at h
    have hgood := not_stops_of_checked_ok hd h
    obtain ⟨logger, hrun⟩ := checked_run_of_good w path.toString text hd hgood
    rw [hrun] at h
    cases h
    have hdocument : Dotconfig.read w.settings.symbolLead text = ⟨_, none⟩ :=
      Dotconfig.readLines_eq_lineEntries
        (fun raw hraw cause hbad => hgood raw hraw (.unreadable hbad)) 1
    obtain ⟨logger', hraw⟩ := unchecked_run hd hread (congrArg (·.failure) hdocument)
    refine ⟨text, _, rfl, hraw, reset_undergo _ _, reset_undergo _ _, fun s hs => ?_⟩
    have hfind := symbol?_name hd hs
    have hassigned := Symbol.assigned_foldl_writes
      (fun e => accepted_of_not_stops hgood path.toString 1) hfind rfl
    have hentries : (Dotconfig.read w.settings.symbolLead text).entries =
        lineEntries w.settings.symbolLead.toList 1 (Text.lines text.toList) := by rw [hdocument]
    rw [← hentries] at hassigned
    refine ⟨_, _, ?_, ?_, hassigned.parallel hfind (s.records_foldl_undergo _)⟩
    · rw [afterLines, symbol?_undergo, hfind, ← hentries]
      rfl
    · rw [symbol?_undergo, hfind, fileEffects, hread]
      rfl

/-- A file that assigns a number twice and unsets a switch. -/
def plainText : String := "CONFIG_BASE=3\n# CONFIG_DEBUG is not set\nCONFIG_BASE=0x7\n"

def plainFile : Surroundings where
  files := ⟨[(["d"], .file (Text.utf8 plainText))]⟩

theorem unchecked_parallels_plainFile : boundedStart.table.Distinct ∧
    ∃ checkedState raw,
      (readSource plainFile .configLoad (.ofString "d") >>= checked plainFile "d") boundedStart =
        (.ok (), checkedState) ∧
      unchecked plainFile (.ofString "d") "CONFIG_" boundedStart = (.ok (), raw) ∧
      ∀ s ∈ boundedStart.table.symbols, ∃ s₁ s₂, checkedState.table.symbol? s.name = some s₁ ∧
        raw.table.symbol? s.name = some s₂ ∧
        s.Parallel "d" (Dotconfig.read "CONFIG_" plainText).entries s₁ s₂ := by
  have hd : boundedStart.table.Distinct := by decide
  have hread : plainFile.files.readText (.ofString "d") = .ok plainText := by
    simp only [Files.Tree.readText, Files.Tree.readBytes, String.contains_char_eq]
    decide +kernel
  have htext : readSource plainFile .configLoad (.ofString "d") boundedStart =
      (.ok plainText, boundedStart) := by
    rw [readSource, hread]
    rfl
  obtain ⟨logger, hchecked⟩ := checked_run_of_good plainFile "d" plainText hd
    (by decide)
  have hrun := (bind_run_ok (f := checked plainFile "d") htext).trans hchecked
  obtain ⟨text, raw, htext', hraw, -, -, hsymbols⟩ := unchecked_parallels_checked hd hrun
  rw [hread] at htext'
  cases htext'
  exact ⟨hd, _, raw, hrun, hraw, hsymbols⟩

end Apply

end KernelConfig
