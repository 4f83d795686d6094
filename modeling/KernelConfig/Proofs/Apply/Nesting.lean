import KernelConfig.Proofs.Apply.Loading

/-!
Nesting: sources apply one another up to the depth of the settings, whatever the scripts do and whatever
the files hold. The depth of a source is the number of loads that are active around it.
-/

set_option autoImplicit false

namespace KernelConfig.Apply

/-- Each context that is open waits for a load, or runs the script at hand. -/
def Event.opens : Event → Int
  | opened _ _ => 1
  | used _ _ _ _ => 0
  | closed _ _ _ => -1

/-- How many contexts have been opened by the events and not been closed. -/
def openContexts (events : List Event) : Int := (events.map Event.opens).sum

@[simp] theorem openContexts_nil : openContexts [] = 0 := rfl

@[simp] theorem openContexts_append (events events' : List Event) :
    openContexts (events ++ events') = openContexts events + openContexts events' := by
  simp [openContexts]

@[simp] theorem openContexts_cons (e : Event) (events : List Event) :
    openContexts (e :: events) = e.opens + openContexts events := by
  simp [openContexts]

/-- Each context is opened at the depth that goes with the contexts that are open by then, and within a
limit. So many contexts are open before the events begin. -/
def Leveled (limit before : Int) (events : List Event) : Prop :=
  ∀ first d source last, events = first ++ .opened d source :: last →
    d = before + openContexts first ∧ d ≤ limit

section

variable {limit before : Int} {events events' : List Event}

theorem leveled_nil : Leveled limit before [] := fun first d source last he => by simp at he

theorem Leveled.append (h : Leveled limit before events)
    (h' : Leveled limit (before + openContexts events) events') :
    Leveled limit before (events ++ events') := by
  intro first d source last he
  rcases append_eq_split he with ⟨rest, rfl, hrest⟩ | ⟨rest, hevents, -⟩
  · obtain ⟨rfl, hle⟩ := h' rest d source last hrest
    rw [openContexts_append]
    exact ⟨Int.add_assoc .., hle⟩
  · exact h first d source rest hevents

theorem leveled_opened {source : String} (h : before ≤ limit) :
    Leveled limit before [.opened before source] := by
  intro first d source' last he
  cases first with
  | nil =>
    cases he
    exact ⟨by simp, h⟩
  | cons e first => simp at he

theorem leveled_other {e : Event} (h : ∀ d source, e ≠ .opened d source) :
    Leveled limit before [e] := by
  intro first d source last he
  cases first with
  | nil => exact absurd (List.cons_eq_cons.mp he).1 (h d source)
  | cons e first => simp at he

end

/-- The script of a name at a depth, as it uses capabilities. -/
def callerAt (w : Surroundings) (name : String) (depth : Int) : Caller where
  source := name
  depth := depth
  loader := loader w depth

/-- What happens while a script runs at a depth: it uses capabilities, and a load may open one more
context around what happens in there. -/
inductive Nests (w : Surroundings) : String → Int → List Event → Prop
  | nil (name : String) (depth : Int) : Nests w name depth []
  | use {name : String} {depth : Int} {events : List Event} (h : Nests w name depth events)
      (what : Capability) (arguments : List Datum) (s : ApplyState) :
      Nests w name depth (events ++
        [.used depth what arguments (use w (callerAt w name depth) what arguments s).1])
  | load {name name' : String} {depth : Int} {events inner : List Event}
      (h : Nests w name depth events) (hdepth : depth < w.settings.maxLoadDepth)
      (hinner : Nests w name' (depth + 1) inner) (stage : Stage) (outcome : Except Failure Unit)
      (arguments : List Datum) (s : ApplyState) :
      Nests w name depth (events ++
        ([.opened (depth + 1) name'] ++ inner ++ [.closed (depth + 1) stage outcome]) ++
        [.used depth .load arguments (use w (callerAt w name depth) .load arguments s).1])

section

variable {w : Surroundings} {name : String} {depth : Int} {events events' : List Event}

namespace Nests

theorem append (h : Nests w name depth events) (h' : Nests w name depth events') :
    Nests w name depth (events ++ events') := by
  induction h' with
  | nil => rwa [List.append_nil]
  | use _ what arguments s ih =>
    rw [← List.append_assoc]
    exact (ih h).use what arguments s
  | load _ hdepth hinner stage outcome arguments s ih =>
    rw [← List.append_assoc, ← List.append_assoc]
    exact (ih h).load hdepth hinner stage outcome arguments s

theorem openContexts (h : Nests w name depth events) : openContexts events = 0 := by
  induction h with
  | nil => rfl
  | use _ what arguments s ih => simp [ih, Event.opens]
  | load _ _ _ stage outcome arguments s ih ihinner => simp [ih, ihinner, Event.opens]

/-- The script itself is open, and what it loads is one level below. -/
theorem leveled (h : Nests w name depth events) :
    Leveled w.settings.maxLoadDepth (depth + 1) events := by
  induction h with
  | nil => exact leveled_nil
  | use _ what arguments s ih => exact ih.append (leveled_other (by simp))
  | load h hdepth hinner stage outcome arguments s ih ihinner =>
    refine (ih.append ?_).append (leveled_other (by simp))
    rw [h.openContexts, Int.add_zero]
    refine ((leveled_opened (by omega)).append ?_).append (leveled_other (by simp))
    simpa [Event.opens] using ihinner

end Nests

/-! ### Runs -/

/-- What a script at a depth adds to the journal. -/
def Follows (w : Surroundings) (name : String) (depth : Int) (s s' : ApplyState) : Prop :=
  ∃ events, s'.journal = events.reverse ++ s.journal ∧ Nests w name depth events

instance : IsPreorder ApplyState (Follows w name depth) where
  refl s := ⟨[], rfl, .nil name depth⟩
  trans a b c := by
    rintro ⟨events, hjournal, h⟩ ⟨events', hjournal', h'⟩
    exact ⟨events ++ events', by simp [hjournal', hjournal], h.append h'⟩

theorem blind_follows : Blind (Follows w name depth) :=
  fun _ _ _ hjournal _ => ⟨[], hjournal, .nil name depth⟩

/-- What the application of a script at a depth adds to the journal. -/
def Opens (w : Surroundings) (name : String) (depth : Int) (journal journal' : List Event) : Prop :=
  ∃ inner stage outcome, journal' =
    ([Event.opened depth name] ++ inner ++ [Event.closed depth stage outcome]).reverse ++ journal ∧
      Nests w name depth inner

/-- A part of an apply that applies one script at a depth, or none. -/
def OpensOne {α : Type} (w : Surroundings) (depth : Int) (part : Apply α) : Prop :=
  ∀ s, (part s).2.journal = s.journal ∨ ∃ name, Opens w name depth s.journal (part s).2.journal

section

variable {α β : Type}

theorem opensOne_of_moves {part : Apply α} (h : Moves Unnoted part) : OpensOne w depth part :=
  fun s => .inl (h s)

theorem OpensOne.after {part : Apply α} {next : α → Apply β} (hpart : Moves Unnoted part)
    (hnext : ∀ a, OpensOne w depth (next a)) : OpensOne w depth (part >>= next) := by
  intro s
  have hjournal : (part s).2.journal = s.journal := hpart s
  rw [bind_run]
  rcases hr : part s with ⟨e | a, s'⟩ <;> rw [hr] at hjournal
  · exact .inl hjournal
  · rw [← hjournal]
    exact hnext a s'

theorem OpensOne.before {part : Apply α} {next : α → Apply β} (hpart : OpensOne w depth part)
    (hnext : ∀ a, Moves Unnoted (next a)) : OpensOne w depth (part >>= next) := by
  intro s
  have hs := hpart s
  rw [bind_run]
  rcases hr : part s with ⟨e | a, s'⟩ <;> rw [hr] at hs
  · exact hs
  · have hjournal : (next a s').2.journal = s'.journal := hnext a s'
    rwa [← hjournal] at hs

theorem OpensOne.onFault {part : Apply α} {handle : Fault → Apply α} (hpart : OpensOne w depth part)
    (hhandle : ∀ f, Moves Unnoted (handle f)) : OpensOne w depth (onFault part handle) := by
  intro s
  have hs := hpart s
  rw [onFault_run]
  rcases hr : part s with ⟨(f | m) | a, s'⟩ <;> rw [hr] at hs
  · have hjournal : (handle f s').2.journal = s'.journal := hhandle f s'
    rwa [← hjournal] at hs
  · exact hs
  · exact hs

end

theorem journal_used (c : Caller) (what : Capability) (arguments : List Datum) (s : ApplyState) :
    (used w c what arguments s).2.journal =
      .used c.depth what arguments (use w c what arguments s).1 :: (use w c what arguments s).2.journal :=
  rfl

theorem opensOne_loadFrom {c : Caller} (path nocheck : Datum)
    (hload : ∀ load, c.loader = some load → ∀ path nocheck, OpensOne w depth (load path nocheck)) :
    OpensOne w depth (loadFrom w c path nocheck) := by
  refine OpensOne.after (moves_of_reads (reads_textArgument _ _)) fun x => ?_
  dsimp only
  split
  · exact opensOne_of_moves (moves_fail _)
  · rename_i load hloader
    refine OpensOne.after (logs_unnoted.log _ _ _) fun _ => OpensOne.before ?_ fun _ => moves_pure _
    refine OpensOne.onFault (hload load hloader _ _) fun f => ?_
    split
    · exact moves_fail _
    · exact moves_fail _

/-- What a script of a name is told that is nested too deep to load a path. -/
def tooDeep (limit : Int) (name path : String) : Fault :=
  Fault.of .configLoad ("cannot load " ++ (targetPath name (.ofString path)).toString
    ++ ": nesting deeper than " ++ Text.signedDecimal limit ++ " sources")

/-- A load by a script that is nested too deep is refused before anything is read. -/
theorem use_load_refused {c : Caller} (hnone : c.loader = none) {arguments : List Datum} {path : String}
    (hpath : (arguments.getD 0 .null).asText? = some path) (hcount : arguments.length ≤ 2)
    (s : ApplyState) : use w c .load arguments s =
      (.error (.fault (tooDeep w.settings.maxLoadDepth c.source path)), s) := by
  rw [use_load, if_neg (by omega)]
  unfold loadFrom
  rw [bind_run_ok (textArgument_run hpath "path" s), hnone]
  rfl

theorem loader_callerAt (w : Surroundings) (name : String) (depth : Int) :
    (callerAt w name depth).loader = if depth < w.settings.maxLoadDepth then
      some fun path nocheck =>
        if nocheck then unchecked w path w.settings.symbolLead else file w path (depth + 1)
    else none := loader_eq w depth

theorem moves_unnoted_refused (hdepth : w.settings.maxLoadDepth ≤ depth) (path nocheck : Datum) :
    Moves Unnoted (loadFrom w (callerAt w name depth) path nocheck) := by
  refine moves_loadFrom logs_unnoted w _ _ _ fun load hload => ?_
  rw [loader_callerAt, if_neg (by omega)] at hload
  cases hload

theorem opensOne_loaded (hdepth : depth < w.settings.maxLoadDepth)
    (hbelow : ∀ src, OpensOne w (depth + 1) (source w src (depth + 1))) (load : Loader)
    (hload : (callerAt w name depth).loader = some load) (path : Files.Path) (nocheck : Bool) :
    OpensOne w (depth + 1) (load path nocheck) := by
  rw [loader_callerAt, if_pos hdepth] at hload
  cases hload
  dsimp only
  split
  · exact opensOne_of_moves (moves_unchecked logs_unnoted (fun _ _ _ _ _ => rfl) w path _)
  · exact OpensOne.after (moves_readSourceFile w path) hbelow

/-- What a use by a script at a depth adds to the journal, if the sources below it do as they should. -/
theorem follows_used
    (hbelow : depth < w.settings.maxLoadDepth → ∀ src, OpensOne w (depth + 1) (source w src (depth + 1)))
    (what : Capability) (arguments : List Datum) :
    Moves (Follows w name depth) (used w (callerAt w name depth) what arguments) := by
  intro s
  have hflat : (use w (callerAt w name depth) what arguments s).2.journal = s.journal →
      Follows w name depth s (used w (callerAt w name depth) what arguments s).2 := fun hjournal =>
    ⟨_, by rw [journal_used, hjournal]; rfl, (Nests.nil name depth).use what arguments s⟩
  by_cases hwhat : what = .load
  swap
  · exact hflat (settles_use w _ hwhat arguments s).journal
  subst hwhat
  by_cases hcount : 2 < arguments.length
  · refine hflat ?_
    rw [use_load, if_pos hcount]
    rfl
  have huse : use w (callerAt w name depth) .load arguments =
      loadFrom w (callerAt w name depth) (arguments.getD 0 .null) (arguments.getD 1 .null) := by
    rw [use_load, if_neg hcount]
  by_cases hdepth : depth < w.settings.maxLoadDepth
  · rcases opensOne_loadFrom (arguments.getD 0 .null) (arguments.getD 1 .null)
      (opensOne_loaded hdepth (hbelow hdepth)) s with
      hjournal | ⟨name', inner, stage, outcome, hjournal, hinner⟩
    · exact hflat (by rw [huse, hjournal])
    · refine ⟨_, ?_, (Nests.nil name depth).load hdepth hinner stage outcome arguments s⟩
      rw [journal_used, huse, hjournal]
      simp [callerAt]
  · refine hflat ?_
    rw [huse]
    exact moves_unnoted_refused (by omega) _ _ s

/-- The end of a part of an apply, but for what has been logged. -/
def Logged (end_ end' : Except Failure Unit × ApplyState) : Prop :=
  ∃ logger, end' = (end_.1, { end_.2 with logger })

theorem Logged.trans {end_ end' end'' : Except Failure Unit × ApplyState} (h : Logged end_ end')
    (h' : Logged end' end'') : Logged end_ end'' := by
  obtain ⟨logger, rfl⟩ := h
  obtain ⟨logger', rfl⟩ := h'
  exact ⟨logger', rfl⟩

theorem logged_onFault_bind {part next : Apply Unit} {handle : Fault → Apply Unit}
    (hhandle : ∀ f s, Logged (.error (.fault f), s) (handle f s))
    (hnext : ∀ s, Logged (.ok (), s) (next s)) (s : ApplyState) :
    Logged (part s) ((onFault part handle >>= fun _ => next) s) := by
  rw [bind_run, onFault_run]
  rcases part s with ⟨(f | m) | _, s'⟩
  · obtain ⟨logger, hf⟩ := hhandle f s'
    dsimp only
    rw [hf]
    exact ⟨logger, rfl⟩
  · exact ⟨s'.logger, rfl⟩
  · exact hnext s'

theorem logged_inScope_bind {part started : Apply Unit} {fields : Fields} {s s' : ApplyState}
    (hstarted : started { s with logger := s.logger.bind fields } = (.ok (), s')) :
    Logged (part s') (inScope fields (started >>= fun _ => part) s) := by
  rw [inScope_run]
  dsimp only
  rw [bind_run_ok hstarted]
  exact ⟨_, rfl⟩

/-- Around the context of a script there is nothing but logging. -/
theorem logged_script (loader : Option Loader) (text : String) (s : ApplyState) :
    Logged (inContext { source := name, depth, loader }
        (Context.new w { source := name, depth, loader } text) (Context.execute w)
        (scriptStart name depth s))
      (script w loader name text depth s) := by
  have hstarted : log .info "config.apply.started" [("kind", .text "lua")]
      { s with logger := s.logger.bind [("source", .text name), ("depth", .int depth)] } =
        (.ok (), scriptStart name depth s) := rfl
  unfold script
  refine Logged.trans ?_ (logged_inScope_bind hstarted)
  exact logged_onFault_bind (fun f s => ⟨_, rfl⟩) (fun s => ⟨_, rfl⟩) _

/-- The context of a script that is applied at a depth. -/
def scriptContext (w : Surroundings) (name text : String) (depth : Int) (s : ApplyState) : Context :=
  Context.new w (callerAt w name depth) text ((scriptStart name depth s).note (.opened depth name))

theorem script_run {text : String} {s : ApplyState} {r : Except Failure Unit} {c : Context}
    (h : Context.execute w (scriptContext w name text depth s) = (r, c)) :
    ∃ logger, script w (loader w depth) name text depth s =
      (r, { c.shared.note (.closed depth c.stage r) with logger }) := by
  have hrun : inContext (callerAt w name depth) (Context.new w (callerAt w name depth) text)
      (Context.execute w) (scriptStart name depth s) = (r, c.shared.note (.closed depth c.stage r)) :=
    inContext_run h
  have hlogged : Logged (inContext (callerAt w name depth) (Context.new w (callerAt w name depth) text)
      (Context.execute w) (scriptStart name depth s)) (script w (loader w depth) name text depth s) :=
    logged_script (loader w depth) text s
  rwa [hrun] at hlogged

theorem opens_script
    (hused : ∀ what arguments, Moves (Follows w name depth) (used w (callerAt w name depth) what arguments))
    (text : String) (s : ApplyState) :
    Opens w name depth s.journal (script w (loader w depth) name text depth s).2.journal := by
  obtain ⟨-, inner, hjournal, hinner⟩ :=
    (tolerant_of_used blind_follows hused).execute (scriptContext w name text depth s) rfl
  rcases hend : Context.execute w (scriptContext w name text depth s) with ⟨r, c⟩
  rw [hend] at hjournal
  obtain ⟨logger, hscript⟩ := script_run hend
  refine ⟨inner, c.stage, r, ?_, hinner⟩
  rw [hscript]
  show _ :: c.shared.journal = _
  rw [hjournal]
  simp [scriptContext, Context.new, ApplyState.note, scriptStart]

theorem source_of_script {src : Source} (hkind : src.kind = .script) (depth : Int) :
    source w src depth = script w (loader w depth) src.name src.text depth := by
  rw [source, sourceWith, hkind]

theorem source_run {src : Source} (hkind : src.kind = .script) {s : ApplyState} {r : Except Failure Unit}
    {c : Context} (h : Context.execute w (scriptContext w src.name src.text depth s) = (r, c)) :
    ∃ logger, source w src depth s = (r, { c.shared.note (.closed depth c.stage r) with logger }) := by
  rw [source_of_script hkind]
  exact script_run h

theorem opensOne_of_below (src : Source)
    (hbelow : depth < w.settings.maxLoadDepth → ∀ src, OpensOne w (depth + 1) (source w src (depth + 1))) :
    OpensOne w depth (source w src depth) := by
  cases hkind : src.kind with
  | script =>
    intro s
    rw [source_of_script hkind]
    exact .inr ⟨src.name, opens_script (follows_used hbelow) src.text s⟩
  | declarative =>
    rw [source, sourceWith, hkind]
    exact opensOne_of_moves
      (moves_checked logs_unnoted (fun _ _ _ _ _ _ _ => rfl) w src.name src.text)

theorem opensOne_source (levels : Nat) {depth : Int}
    (hlevels : (w.settings.maxLoadDepth - depth).toNat = levels) (src : Source) :
    OpensOne w depth (source w src depth) := by
  -- The files may be in a cycle: only the levels that are left get fewer with each load.
  induction levels generalizing depth src with
  | zero => exact opensOne_of_below src fun hdepth => by omega
  | succ levels ih =>
    refine opensOne_of_below src fun hdepth src' => ?_
    have hlevels' : (w.settings.maxLoadDepth - (depth + 1)).toNat = levels := by omega
    exact ih hlevels' src'

end

/-- **Nesting is bounded.** Whatever the files hold and whatever the scripts do, each context is opened at
the depth that is the number of loads active around it, and none beyond the depth of the settings. A file
that is loaded at a depth is applied one level below. A load at the depth of the settings is refused: it
reads no file, opens no context and leaves the table. -/
theorem nesting_is_bounded (w : Surroundings) (src : Source) (s : ApplyState) (hkind : src.kind = .script)
    (hlimit : 1 ≤ w.settings.maxLoadDepth) :
    (∃ inner stage outcome, happenings (source w src 0) s =
        [.opened 0 src.name] ++ inner ++ [.closed 0 stage outcome] ∧ Nests w src.name 0 inner) ∧
      (∀ before depth name after,
        happenings (source w src 0) s = before ++ .opened depth name :: after →
          depth = openContexts before ∧ depth ≤ w.settings.maxLoadDepth) ∧
      (∀ name depth, (callerAt w name depth).loader = if depth < w.settings.maxLoadDepth then
          some fun path nocheck =>
            if nocheck then unchecked w path w.settings.symbolLead else file w path (depth + 1)
        else none) ∧
      ∀ name path arguments, (arguments.getD 0 .null).asText? = some path → arguments.length ≤ 2 →
        ∀ files s, use { w with files } (callerAt w name w.settings.maxLoadDepth) .load arguments s =
          (.error (.fault (tooDeep w.settings.maxLoadDepth name path)), s) := by
  obtain ⟨inner, stage, outcome, hjournal, hinner⟩ : Opens w src.name 0 s.journal _ :=
    opens_script (follows_used fun _ src => opensOne_source _ rfl src) src.text s
  rw [← source_of_script hkind] at hjournal
  have hhappenings := happenings_eq hjournal
  refine ⟨⟨inner, stage, outcome, hhappenings, hinner⟩, ?_, fun name depth => loader_callerAt w name depth,
    fun name path arguments hpath hcount => ?_⟩
  · have hleveled : Leveled w.settings.maxLoadDepth 0 (happenings (source w src 0) s) := by
      rw [hhappenings]
      refine ((leveled_opened (by omega)).append ?_).append (leveled_other (by simp))
      simpa [Event.opens] using hinner.leveled
    intro before depth name after he
    simpa using hleveled before depth name after he
  · have hnone : (callerAt w name w.settings.maxLoadDepth).loader = none := by
      rw [loader_callerAt, if_neg (lt_irrefl _)]
    exact fun files s => use_load_refused (w := { w with files }) hnone hpath hcount s

/-! A script that loads itself, and loads itself again when that has failed. -/

def loopScript : Source where
  kind := .script
  name := "loop.lua"
  text := "pcall(load_kconfig, 'loop.lua')\nload_kconfig('loop.lua', true)"

def loopSurroundings : Surroundings where
  files := ⟨[(["loop.lua"], .file (Script.bytes loopScript.text))]⟩
  settings := { maxLoadDepth := 2 }

def loopStart : ApplyState where
  table := { symbols := [{ name := "FOO", type := .boolean }] }

theorem nesting_is_bounded_loop :
    (∃ inner stage outcome, happenings (source loopSurroundings loopScript 0) loopStart =
        [.opened 0 "loop.lua"] ++ inner ++ [.closed 0 stage outcome] ∧
          Nests loopSurroundings "loop.lua" 0 inner) ∧
      use { loopSurroundings with files := ⟨[]⟩ } (callerAt loopSurroundings "loop.lua" 2) .load
        [.text "loop.lua", .bool true] loopStart =
          (.error (.fault (tooDeep 2 "loop.lua" "loop.lua")), loopStart) := by
  obtain ⟨hcontexts, -, -, hrefused⟩ :=
    nesting_is_bounded loopSurroundings loopScript loopStart rfl (by decide)
  refine ⟨hcontexts, ?_⟩
  exact hrefused "loop.lua" "loop.lua" [.text "loop.lua", .bool true] rfl (by decide) ⟨[]⟩ loopStart

end KernelConfig.Apply
