import KernelConfig.Proofs.Apply.Unchecked

/-!
Independence: what a checked source does depends on the declarations of the symbols and not on what they
hold. So two sources that assign different symbols can change places, and an assignment that a later line
overwrites can be left out.
-/

set_option autoImplicit false

namespace KernelConfig

open Dotconfig (Assignment Entry entriesFor lineEntries readLine)

/-! ### Declarations -/

theorem Symbol.coerce_of_reset {s s' : Symbol} (h : s'.reset = s.reset) (v : SymbolValue) :
    s'.coerce v = s.coerce v := by
  have hrange : s'.reset.range = s.reset.range := by rw [h]
  have hrange : s'.range = s.range := hrange
  unfold coerce
  rw [name_eq_of_reset h, type_eq_of_reset h, hrange]

namespace SymbolTable

/-- The same symbols are declared, in the same order; what they hold may differ. -/
def DeclaredAlike (t t' : SymbolTable) : Prop :=
  t'.symbols.map Symbol.reset = t.symbols.map Symbol.reset

variable {t t' : SymbolTable}

theorem DeclaredAlike.symbol?_cases (h : t.DeclaredAlike t') (name : String) :
    (t.symbol? name = none ∧ t'.symbol? name = none) ∨
      ∃ s s', t.symbol? name = some s ∧ t'.symbol? name = some s' ∧ s'.reset = s.reset := by
  have hfind : ∀ u : SymbolTable, (u.symbol? name).map Symbol.reset =
      (u.symbols.map Symbol.reset).find? (·.name = name) := by
    intro u
    rw [List.find?_map]
    rfl
  have hsame := hfind t'
  rw [h, ← hfind t] at hsame
  cases hs : t.symbol? name with
  | none =>
    rw [hs] at hsame
    exact .inl ⟨rfl, Option.map_eq_none_iff.mp hsame⟩
  | some s =>
    rw [hs] at hsame
    obtain ⟨s', hs', hreset⟩ := Option.map_eq_some_iff.mp hsame
    exact .inr ⟨s, s', rfl, hs', hreset⟩

theorem DeclaredAlike.distinct (h : t.DeclaredAlike t') (hd : t.Distinct) : t'.Distinct := by
  have hnames : ∀ u : SymbolTable, u.names = (u.symbols.map Symbol.reset).map (·.name) := by
    intro u
    rw [List.map_map]
    rfl
  rwa [Distinct, hnames, h, ← hnames]

theorem DeclaredAlike.update (h : t.DeclaredAlike t') {s s' : Symbol} (hs : s'.reset = s.reset) :
    (t.update s).DeclaredAlike (t'.update s') := by
  have hupdate : ∀ (u : SymbolTable) (s₀ : Symbol), (u.update s₀).symbols.map Symbol.reset =
      (u.symbols.map Symbol.reset).map fun old => if old.name = s₀.reset.name then s₀.reset else old := by
    intro u s₀
    simp only [SymbolTable.update, List.map_map]
    refine List.map_congr_left fun old _ => ?_
    show (if old.name = s₀.name then s₀ else old).reset =
      if old.name = s₀.name then s₀.reset else old.reset
    split <;> rfl
  rw [DeclaredAlike, hupdate, hupdate, h, hs]

theorem DeclaredAlike.accepted? (h : t.DeclaredAlike t') (c : Call) : t'.accepted? c = t.accepted? c := by
  unfold SymbolTable.accepted?
  rcases h.symbol?_cases c.name with ⟨hs, hs'⟩ | ⟨s, s', hs, hs', hreset⟩
  · rw [hs, hs']
  · have hrange : s'.reset.range = s.reset.range := by rw [hreset]
    have hrange : s'.range = s.range := hrange
    simp only [hs, hs', Symbol.type_eq_of_reset hreset, hrange]

theorem DeclaredAlike.stops_iff (h : t.DeclaredAlike t') (lead raw : List Char) :
    t'.Stops lead raw ↔ t.Stops lead raw := by
  simp only [SymbolTable.stops_iff, h.accepted?]

theorem DeclaredAlike.checkedEffects (h : t.DeclaredAlike t') (source lead text : String) :
    t'.checkedEffects source lead text = t.checkedEffects source lead text := by
  simp only [SymbolTable.checkedEffects, writes, h.accepted?, h.stops_iff]

end SymbolTable

/-! ### Programs that look at declarations only -/

namespace Apply

open SymbolTable

variable {α β : Type}

/-- A program that answers the same, and leaves the same declarations, whatever the symbols hold. -/
def Oblivious (x : Apply α) : Prop := ∀ s s' : ApplyState, s.table.DeclaredAlike s'.table →
  (x s).1 = (x s').1 ∧ (x s).2.table.DeclaredAlike (x s').2.table

theorem oblivious_pure (a : α) : Oblivious (pure a) := fun _ _ h => ⟨rfl, h⟩

theorem oblivious_fail (f : Fault) : Oblivious (fail f : Apply α) := fun _ _ h => ⟨rfl, h⟩

theorem oblivious_log (level : Log.Level) (name : String) (fields : Fields) :
    Oblivious (log level name fields) := fun _ _ h => ⟨rfl, h⟩

theorem oblivious_bind {x : Apply α} {f : α → Apply β} (hx : Oblivious x)
    (hf : ∀ a, Oblivious (f a)) : Oblivious (x >>= f) := by
  intro s s' h
  have hxs := hx s s' h
  rw [bind_run, bind_run]
  rcases hr : x s with ⟨e | a, s₁⟩ <;> rcases hr' : x s' with ⟨e' | a', s₁'⟩ <;>
    rw [hr, hr'] at hxs <;> obtain ⟨⟨⟩, halike⟩ := hxs
  · exact ⟨rfl, halike⟩
  · exact hf a s₁ s₁' halike

theorem oblivious_forM {f : α → Apply PUnit} (as : List α) (hf : ∀ a, Oblivious (f a)) :
    Oblivious (as.forM f) := by
  induction as with
  | nil => exact oblivious_pure _
  | cons a as ih => exact oblivious_bind (hf a) fun _ => ih

theorem oblivious_inScope (fields : Fields) {part : Apply α} (h : Oblivious part) :
    Oblivious (inScope fields part) := by
  intro s s' halike
  rw [inScope_run, inScope_run]
  exact h { s with logger := s.logger.bind fields } { s' with logger := s'.logger.bind fields } halike

/-- Whether a symbol takes a value, and the fault if it does not, do not depend on what it holds. -/
theorem oblivious_checkedEntry (source lead : String) (e : Entry) :
    Oblivious (checkedEntry source lead e) := by
  intro s s' halike
  rw [checkedEntry, bind_run_ok (table_run s), bind_run_ok (table_run s')]
  rcases halike.symbol?_cases e.name with ⟨hs, hs'⟩ | ⟨sym, sym', hs, hs', hreset⟩
  · simp only [hs, hs']
    exact oblivious_fail _ s s' halike
  · have hcoerce := Symbol.coerce_of_reset hreset (.auto e.value)
    simp only [hs, hs', SymbolTable.set, Symbol.set, hcoerce]
    cases sym.coerce (.auto e.value) with
    | error r => exact oblivious_fail _ s s' halike
    | ok v =>
      have hrecorded : ∀ p : Provenance, (sym'.record v p).reset = (sym.record v p).reset := fun _ => hreset
      exact ⟨rfl, halike.update (hrecorded _)⟩

theorem oblivious_checked (w : Surroundings) (source text : String) :
    Oblivious (checked w source text) := by
  refine oblivious_inScope _ (oblivious_bind (oblivious_log _ _ _) fun _ => ?_)
  refine oblivious_bind ?_ fun _ => oblivious_log _ _ _
  refine oblivious_bind (oblivious_forM _ fun e => oblivious_checkedEntry _ _ e) fun _ => ?_
  cases (Dotconfig.read w.settings.symbolLead text).failure with
  | none => exact oblivious_pure _
  | some f => exact oblivious_fail _

end Apply

/-! ### Effects on different symbols -/

/-- The symbol that an effect is on. -/
def Effect.target : Effect → String
  | write name _ _ => name
  | clear name => name

/-- What becomes of a symbol depends on the effects on it alone. -/
theorem Symbol.foldl_undergo_filter (s : Symbol) (log : List Effect) :
    (log.filter (·.target = s.name)).foldl undergo s = log.foldl undergo s := by
  induction log generalizing s with
  | nil => rfl
  | cons e log ih =>
    by_cases hn : e.target = s.name
    · have hname : (s.undergo e).name = s.name := name_eq_of_reset (reset_undergo s e)
      rw [List.filter_cons_of_pos (by simpa using hn), List.foldl_cons, List.foldl_cons, ← ih, hname]
    · have hsame : s.undergo e = s := by
        cases e <;> exact if_neg hn
      rw [List.filter_cons_of_neg (by simpa using hn), List.foldl_cons, hsame, ih]

/-- Effects on different symbols can change places. -/
theorem SymbolTable.undergo_comm (t : SymbolTable) {log log' : List Effect}
    (h : ∀ e ∈ log, ∀ e' ∈ log', e.target ≠ e'.target) :
    t.undergo (log ++ log') = t.undergo (log' ++ log) := by
  simp only [undergo]
  congr 1
  refine List.map_congr_left fun s _ => ?_
  rw [← s.foldl_undergo_filter (log ++ log'), ← s.foldl_undergo_filter (log' ++ log),
    List.filter_append, List.filter_append]
  -- At most one of the two logs has effects on this symbol.
  by_cases hon : ∃ e ∈ log, e.target = s.name
  · obtain ⟨e, he, hname⟩ := hon
    have hnone : log'.filter (·.target = s.name) = [] := by
      refine List.filter_eq_nil_iff.mpr fun e' he' => ?_
      simpa [hname] using (h e he e' he').symm
    rw [hnone, List.append_nil, List.nil_append]
  · have hnone : log.filter (·.target = s.name) = [] := by
      refine List.filter_eq_nil_iff.mpr fun e he => ?_
      simpa using fun hname => hon ⟨e, he, hname⟩
    rw [hnone, List.append_nil, List.nil_append]

/-- The effects of a source are on the symbols that its entries name. -/
theorem SymbolTable.exists_entry_of_mem_writes {t : SymbolTable} {source : String} {es : List Entry}
    {effect : Effect} (h : effect ∈ t.writes source es) : ∃ e ∈ es, e.name = effect.target := by
  obtain ⟨e, he, heffect⟩ := List.mem_filterMap.mp h
  obtain ⟨s, v, -, -, rfl⟩ := accepted?_eq_some.mp heffect
  exact ⟨e, he, rfl⟩

/-! ### Overwritten lines -/

namespace Dotconfig

/-- The assignments of some lines, wherever these stand. -/
def assignments (lead : List Char) (lines : List (List Char)) : List Assignment :=
  lines.filterMap fun raw => match readLine lead raw with
    | .ok a => a
    | .error _ => none

theorem assignments_append (lead : List Char) (before behind : List (List Char)) :
    assignments lead (before ++ behind) = assignments lead before ++ assignments lead behind := by
  simp [assignments]

theorem map_lineEntries (lead : List Char) (number : Nat) (lines : List (List Char)) :
    (lineEntries lead number lines).map (·.toAssignment) = assignments lead lines := by
  induction lines generalizing number with
  | nil => rfl
  | cons raw lines ih =>
    cases hread : readLine lead raw with
    | error cause =>
      have hnone : lineEntries lead number (raw :: lines) = lineEntries lead (number + 1) lines := by
        simp [lineEntries, hread]
      simp [hnone, ih, assignments, hread]
    | ok a =>
      cases a with
      | none => simp [lineEntries_cons_none hread, ih, assignments, hread]
      | some a => simp [lineEntries_cons_some hread, ih, assignments, hread]

/-- The last text for a symbol. -/
def lastText (name : String) (as : List Assignment) : Option String :=
  ((as.filter (·.name = name)).getLast?).map (·.value)

theorem lastText_lineEntries (name : String) (lead : List Char) (number : Nat)
    (lines : List (List Char)) :
    ((entriesFor name (lineEntries lead number lines)).getLast?).map (·.value) =
      lastText name (assignments lead lines) := by
  rw [lastText, ← map_lineEntries lead number lines, List.filter_map, List.getLast?_map, Option.map_map]
  rfl

/-- An assignment with another one for the same symbol behind it is never the last one. -/
theorem lastText_of_overwritten {before behind : List Assignment} {a : Assignment}
    (h : ∃ b ∈ behind, b.name = a.name) (name : String) :
    lastText name (before ++ a :: behind) = lastText name (before ++ behind) := by
  by_cases hn : a.name = name
  · obtain ⟨b, hb, hname⟩ := h
    -- Both lists end with what is behind the overwritten assignment, and that is not empty.
    have hne : behind.filter (·.name = name) ≠ [] := by
      refine List.ne_nil_of_mem (a := b) (List.mem_filter.mpr ⟨hb, ?_⟩)
      simp [hname, hn]
    rw [lastText, lastText, List.filter_append, List.filter_append,
      List.filter_cons_of_pos (by simpa using hn), List.getLast?_append_of_ne_nil _ (by simp),
      List.getLast?_append_of_ne_nil _ hne, ← List.singleton_append,
      List.getLast?_append_of_ne_nil _ hne]
  · rw [lastText, lastText, List.filter_append, List.filter_append,
      List.filter_cons_of_neg (by simpa using hn)]

end Dotconfig

/-- The value of a symbol after a source is the one of the last text for it. -/
theorem Symbol.Assigned.value_eq {source : String} {es : List Entry} {s s' : Symbol}
    (h : s.Assigned source es s') :
    s'.value = match ((entriesFor s.name es).getLast?).map (·.value) with
      | none => s.value
      | some text => (coerceTo s.type s.range (.auto text)).toOption := by
  cases hlast : (entriesFor s.name es).getLast? with
  | none => exact h.untouched (List.getLast?_eq_none_iff.mp hlast)
  | some e =>
    obtain ⟨v, hv, hvalue⟩ := h.value e hlast
    simp [hvalue, hv, Except.toOption]

/-! ### Checked sources -/

/-- A symbol after a source, from two states: the same records have been added to its histories, and
it has the same value from both, unless nothing has been assigned to it. -/
structure Symbol.AssignedAlike (records : List Provenance) (s₁ s₁' s₂ s₂' : Symbol) : Prop where
  history : s₁'.history = records ++ s₁.history ∧ s₂'.history = records ++ s₂.history
  untouched : records = [] → s₁' = s₁ ∧ s₂' = s₂
  value : records ≠ [] → ∃ v, s₁'.value = some v ∧ s₂'.value = some v

theorem Symbol.Assigned.alike {source : String} {es : List Entry} {s₁ s₁' s₂ s₂' : Symbol}
    (h₁ : s₁.Assigned source es s₁') (h₂ : s₂.Assigned source es s₂') (hreset : s₂.reset = s₁.reset) :
    AssignedAlike ((entriesFor s₁.name es).map (Entry.provenance source)).reverse s₁ s₁' s₂ s₂' := by
  have hname : s₂.name = s₁.name := name_eq_of_reset hreset
  have hhistory₂ := h₂.history
  rw [hname] at hhistory₂
  refine ⟨⟨h₁.history, hhistory₂⟩, fun hnone => ?_, fun hsome => ?_⟩
  · have hempty : entriesFor s₁.name es = [] := by simpa using hnone
    have hempty₂ : entriesFor s₂.name es = [] := by rw [hname, hempty]
    exact ⟨eq_of_reset h₁.declaration (h₁.untouched hempty) (by simp [h₁.history, hempty]),
      eq_of_reset h₂.declaration (h₂.untouched hempty₂) (by simp [h₂.history, hempty₂])⟩
  · have hne : entriesFor s₁.name es ≠ [] := by simpa using hsome
    obtain ⟨v₁, hv₁, hvalue₁⟩ := h₁.value _ (List.getLast?_eq_some_getLast hne)
    have hrange : s₂.reset.range = s₁.reset.range := by rw [hreset]
    have hrange : s₂.range = s₁.range := hrange
    obtain ⟨v₂, hv₂, hvalue₂⟩ := h₂.value _ (by rw [hname]; exact List.getLast?_eq_some_getLast hne)
    rw [type_eq_of_reset hreset, hrange, hv₁] at hv₂
    cases hv₂
    exact ⟨v₁, hvalue₁, hvalue₂⟩

namespace Apply

open SymbolTable Dotconfig

variable {state : ApplyState}

/-- The entries that a checked source applies, up to its first bad line. -/
def appliedEntries (t : SymbolTable) (lead text : String) : List Entry :=
  lineEntries lead.toList 1 ((Text.lines text.toList).takeWhile fun raw => ¬ t.Stops lead.toList raw)

/-- What a checked source makes of a symbol, whether it is applied to the end or not. -/
theorem assigned_of_checked (w : Surroundings) (source text : String) (hd : state.table.Distinct)
    {name : String} {s : Symbol} (hs : state.table.symbol? name = some s) :
    ∃ s', (checked w source text state).2.table.symbol? name = some s' ∧
      s.Assigned source (appliedEntries state.table w.settings.symbolLead text) s' := by
  refine ⟨_, by rw [checked_table w source text hd, symbol?_undergo, hs]; rfl, ?_⟩
  have hgood : ∀ raw ∈ (Text.lines text.toList).takeWhile fun raw =>
      ¬ state.table.Stops w.settings.symbolLead.toList raw,
      ¬ state.table.Stops w.settings.symbolLead.toList raw := fun raw hraw => by
    simpa using List.mem_takeWhile_imp hraw
  exact Symbol.assigned_foldl_writes (fun e => accepted_of_not_stops hgood source 1)
    (symbol?_name hd (mem_of_symbol? hs)) rfl

theorem appliedEntries_alike {t t' : SymbolTable} (h : t.DeclaredAlike t') (lead text : String) :
    appliedEntries t' lead text = appliedEntries t lead text := by
  simp only [appliedEntries, h.stops_iff]

theorem good_of_accepted {w : Surroundings} {source text : String} (hd : state.table.Distinct)
    (h : (checked w source text state).1 = .ok ()) :
    ∀ raw ∈ Text.lines text.toList, ¬ state.table.Stops w.settings.symbolLead.toList raw :=
  not_stops_of_checked_ok hd (Prod.ext h rfl)

/-- The entries of an accepted source are those of all its lines. -/
theorem entries_of_accepted {w : Surroundings} {source text : String} (hd : state.table.Distinct)
    (h : (checked w source text state).1 = .ok ()) :
    (Dotconfig.read w.settings.symbolLead text).entries =
      lineEntries w.settings.symbolLead.toList 1 (Text.lines text.toList) := by
  have hread := readLines_eq_lineEntries
    (fun raw hraw cause hbad => good_of_accepted hd h raw hraw (.unreadable hbad)) 1
  exact congrArg (·.entries) hread

/-- A source that is accepted has the same effects after any others. -/
theorem checked_run_of_accepted {w : Surroundings} {source text : String} (hd : state.table.Distinct)
    (h : (checked w source text state).1 = .ok ()) (log : List Effect) (logger : Log.Logger) :
    ∃ logger', checked w source text { state with table := state.table.undergo log, logger } =
      (.ok (), { state with
        table := state.table.undergo (log ++ state.table.writes source
          (lineEntries w.settings.symbolLead.toList 1 (Text.lines text.toList)))
        logger := logger' }) := by
  let later : ApplyState := { state with table := state.table.undergo log, logger }
  have hgood : ∀ raw ∈ Text.lines text.toList,
      ¬ later.table.Stops w.settings.symbolLead.toList raw := fun raw hraw => by
    simpa only [later, stops_undergo] using good_of_accepted hd h raw hraw
  obtain ⟨logger', hrun⟩ := checked_run_of_good w source text (distinct_undergo hd log) hgood
  refine ⟨logger', ?_⟩
  simpa only [later, afterLines, writes_undergo, undergo_undergo] using hrun

/-- From two states with the same declarations a source ends in the same way, and gives the same records
and values to each symbol. -/
theorem checked_alike (w : Surroundings) (source text : String) {other : ApplyState}
    (hd : state.table.Distinct) (halike : state.table.DeclaredAlike other.table) :
    let end₁ := checked w source text state
    let end₂ := checked w source text other
    end₁.1 = end₂.1 ∧ end₁.2.table.reset = state.table.reset ∧ end₂.2.table.reset = other.table.reset ∧
    ∀ name s₁ s₂, state.table.symbol? name = some s₁ → other.table.symbol? name = some s₂ →
      ∃ records s₁' s₂', end₁.2.table.symbol? name = some s₁' ∧
        end₂.2.table.symbol? name = some s₂' ∧ Symbol.AssignedAlike records s₁ s₁' s₂ s₂' := by
  have hd' := halike.distinct hd
  refine ⟨(oblivious_checked w source text state other halike).1, ?_, ?_, fun name s₁ s₂ hs₁ hs₂ => ?_⟩
  · rw [checked_table w source text hd, reset_undergo]
  · rw [checked_table w source text hd', reset_undergo]
  · obtain ⟨s₁', hs₁', hassigned₁⟩ := assigned_of_checked w source text hd hs₁
    obtain ⟨s₂', hs₂', hassigned₂⟩ := assigned_of_checked w source text hd' hs₂
    rw [appliedEntries_alike halike] at hassigned₂
    rcases halike.symbol?_cases name with ⟨hnone, -⟩ | ⟨s, s', hs, hs', hreset⟩
    · cases hnone.symm.trans hs₁
    · cases hs.symm.trans hs₁
      cases hs'.symm.trans hs₂
      exact ⟨_, s₁', s₂', hs₁', hs₂', hassigned₁.alike hassigned₂ hreset⟩

/-- Two accepted sources that assign different symbols can change places. -/
theorem checked_comm {w w' : Surroundings} {source source' text text' : String}
    (hd : state.table.Distinct) (h : (checked w source text state).1 = .ok ())
    (h' : (checked w' source' text' state).1 = .ok ())
    (hdisjoint : ∀ e ∈ (Dotconfig.read w.settings.symbolLead text).entries,
      ∀ e' ∈ (Dotconfig.read w'.settings.symbolLead text').entries, e.name ≠ e'.name) :
    ∃ end₁ end₂, (checked w source text >>= fun _ => checked w' source' text') state = (.ok (), end₁) ∧
      (checked w' source' text' >>= fun _ => checked w source text) state = (.ok (), end₂) ∧
      end₁.table = end₂.table := by
  rw [entries_of_accepted hd h, entries_of_accepted hd h'] at hdisjoint
  obtain ⟨logger₁, hfirst⟩ := checked_run_of_accepted hd h [] state.logger
  obtain ⟨logger₂, hfirst'⟩ := checked_run_of_accepted hd h' [] state.logger
  rw [undergo_nil, List.nil_append] at hfirst hfirst'
  obtain ⟨logger₃, hsecond⟩ := checked_run_of_accepted hd h' _ logger₁
  obtain ⟨logger₄, hsecond'⟩ := checked_run_of_accepted hd h _ logger₂
  refine ⟨_, _, (bind_run_ok hfirst).trans hsecond, (bind_run_ok hfirst').trans hsecond',
    undergo_comm _ ?_⟩
  intro effect heffect effect' heffect' htarget
  obtain ⟨e, he, hname⟩ := exists_entry_of_mem_writes heffect
  obtain ⟨e', he', hname'⟩ := exists_entry_of_mem_writes heffect'
  exact hdisjoint e he e' he' (hname.trans (htarget.trans hname'.symm))

/-- A line of an accepted source can be left out if a later line assigns the same symbol. -/
theorem checked_of_overwritten {w : Surroundings} {source text shorter : String}
    (hd : state.table.Distinct) (h : (checked w source text state).1 = .ok ())
    {before behind : List (List Char)} {raw : List Char} {a : Assignment}
    (hlines : Text.lines text.toList = before ++ raw :: behind)
    (hshorter : Text.lines shorter.toList = before ++ behind)
    (hread : readLine w.settings.symbolLead.toList raw = .ok (some a))
    (hlater : ∃ b ∈ assignments w.settings.symbolLead.toList behind, b.name = a.name) :
    ∃ end₁ end₂, checked w source text state = (.ok (), end₁) ∧
      checked w source shorter state = (.ok (), end₂) ∧
      List.Forall₂ (fun s₁ s₂ => s₁.reset = s₂.reset ∧ s₁.value = s₂.value) end₁.table.symbols
        end₂.table.symbols := by
  have hgood := good_of_accepted hd h
  -- What is left of the source are lines of it, so none of them stops it either.
  have hgood' : ∀ line ∈ Text.lines shorter.toList,
      ¬ state.table.Stops w.settings.symbolLead.toList line := by
    intro line hline
    refine hgood line ?_
    rw [hshorter] at hline
    rw [hlines]
    simp only [List.mem_append, List.mem_cons] at hline ⊢
    tauto
  obtain ⟨logger, hrun⟩ := checked_run_of_good w source text hd hgood
  obtain ⟨logger', hrun'⟩ := checked_run_of_good w source shorter hd hgood'
  refine ⟨_, _, hrun, hrun', ?_⟩
  refine List.forall₂_map_left_iff.mpr (List.forall₂_map_right_iff.mpr (List.forall₂_same.mpr ?_))
  intro s hs
  have hassigned := Symbol.assigned_foldl_writes (fun e => accepted_of_not_stops hgood source 1)
    (symbol?_name hd hs) rfl
  have hassigned' := Symbol.assigned_foldl_writes (fun e => accepted_of_not_stops hgood' source 1)
    (symbol?_name hd hs) rfl
  have hassignments : assignments w.settings.symbolLead.toList (before ++ raw :: behind) =
      assignments w.settings.symbolLead.toList before ++
        a :: assignments w.settings.symbolLead.toList behind := by
    rw [assignments_append]
    simp [assignments, hread]
  refine ⟨hassigned.declaration.trans hassigned'.declaration.symm, ?_⟩
  rw [hassigned.value_eq, hassigned'.value_eq, lastText_lineEntries, lastText_lineEntries, hlines,
    hshorter, hassignments, assignments_append, lastText_of_overwritten hlater]

/-- What a checked source does depends on the declarations of the symbols only: from tables with the same
declarations it ends in the same way, and gives the same records and values to each symbol. So accepted
sources that assign different symbols can change places, and a line of an accepted source can be left out
if a later one assigns the same symbol. -/
theorem checked_depends_on_declarations (state : ApplyState) (hd : state.table.Distinct) :
    (∀ (w : Surroundings) (source text : String) (other : ApplyState),
      state.table.DeclaredAlike other.table →
      let end₁ := checked w source text state
      let end₂ := checked w source text other
      end₁.1 = end₂.1 ∧ end₁.2.table.reset = state.table.reset ∧ end₂.2.table.reset = other.table.reset ∧
      ∀ name s₁ s₂, state.table.symbol? name = some s₁ → other.table.symbol? name = some s₂ →
        ∃ records s₁' s₂', end₁.2.table.symbol? name = some s₁' ∧
          end₂.2.table.symbol? name = some s₂' ∧ Symbol.AssignedAlike records s₁ s₁' s₂ s₂') ∧
    (∀ (w w' : Surroundings) (source source' text text' : String),
      (checked w source text state).1 = .ok () → (checked w' source' text' state).1 = .ok () →
      (∀ e ∈ (Dotconfig.read w.settings.symbolLead text).entries,
        ∀ e' ∈ (Dotconfig.read w'.settings.symbolLead text').entries, e.name ≠ e'.name) →
      ∃ end₁ end₂, (checked w source text >>= fun _ => checked w' source' text') state = (.ok (), end₁) ∧
        (checked w' source' text' >>= fun _ => checked w source text) state = (.ok (), end₂) ∧
        end₁.table = end₂.table) ∧
    ∀ (w : Surroundings) (source text shorter : String) (before : List (List Char)) (raw : List Char)
      (behind : List (List Char)) (a : Assignment), (checked w source text state).1 = .ok () →
      Text.lines text.toList = before ++ raw :: behind → Text.lines shorter.toList = before ++ behind →
      readLine w.settings.symbolLead.toList raw = .ok (some a) →
      (∃ b ∈ assignments w.settings.symbolLead.toList behind, b.name = a.name) →
      ∃ end₁ end₂, checked w source text state = (.ok (), end₁) ∧
        checked w source shorter state = (.ok (), end₂) ∧
        List.Forall₂ (fun s₁ s₂ => s₁.reset = s₂.reset ∧ s₁.value = s₂.value) end₁.table.symbols
          end₂.table.symbols :=
  ⟨fun w source text _ halike => checked_alike w source text hd halike,
    fun _ _ _ _ _ _ h h' hdisjoint => checked_comm hd h h' hdisjoint,
    fun _ _ _ _ _ _ _ _ h hlines hshorter hread hlater =>
      checked_of_overwritten hd h hlines hshorter hread hlater⟩

/-- The bounded table, with other values in it. -/
def filledStart : ApplyState where
  table := boundedStart.table.undergo
    [.write "BASE" (.number 5) ⟨"a", none⟩, .write "DEBUG" (.bool true) ⟨"b", some "trace"⟩]

theorem checked_depends_on_declarations_bounded :
    boundedStart.table.Distinct ∧ boundedStart.table.DeclaredAlike filledStart.table ∧
    (checked {} "c" outOfRange boundedStart).1 = (checked {} "c" outOfRange filledStart).1 ∧
    (∃ end₁ end₂, (checked {} "a" "CONFIG_BASE=3\n" >>= fun _ => checked {} "b" "CONFIG_DEBUG=y\n")
          boundedStart = (.ok (), end₁) ∧
        (checked {} "b" "CONFIG_DEBUG=y\n" >>= fun _ => checked {} "a" "CONFIG_BASE=3\n")
          boundedStart = (.ok (), end₂) ∧ end₁.table = end₂.table) ∧
    ∃ end₁ end₂, checked {} "c" plainText boundedStart = (.ok (), end₁) ∧
      checked {} "c" "# CONFIG_DEBUG is not set\nCONFIG_BASE=0x7\n" boundedStart = (.ok (), end₂) ∧
      List.Forall₂ (fun s₁ s₂ => s₁.reset = s₂.reset ∧ s₁.value = s₂.value) end₁.table.symbols
        end₂.table.symbols := by
  have hd : boundedStart.table.Distinct := by decide
  have halike : boundedStart.table.DeclaredAlike filledStart.table := by
    unfold SymbolTable.DeclaredAlike
    decide
  have haccepted : ∀ source text, (∀ raw ∈ Text.lines text.toList,
      ¬ boundedStart.table.Stops "CONFIG_".toList raw) → (checked {} source text boundedStart).1 = .ok () := by
    intro source text hgood
    obtain ⟨logger, hrun⟩ := checked_run_of_good {} source text hd hgood
    rw [hrun]
  obtain ⟨hsame, hcomm, hshorter⟩ := checked_depends_on_declarations boundedStart hd
  refine ⟨hd, halike, (hsame {} "c" outOfRange filledStart halike).1, hcomm {} {} "a" "b" _ _ ?_ ?_ ?_,
    hshorter {} "c" plainText _ [] "CONFIG_BASE=3".toList
      ["# CONFIG_DEBUG is not set".toList, "CONFIG_BASE=0x7".toList] ⟨"BASE", "3", false⟩ ?_ ?_ ?_ ?_ ?_⟩
  · exact haccepted _ _ (by decide)
  · exact haccepted _ _ (by decide)
  · decide
  · exact haccepted _ _ (by decide)
  · decide
  · decide
  · decide
  · decide

end Apply

end KernelConfig
