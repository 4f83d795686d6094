import KernelConfig.Proofs.Apply.HandleCalls
import KernelConfig.Proofs.Apply.TextWrites
import KernelConfig.Proofs.Apply.Verdict
import KernelConfig.Proofs.Script.ChunkSources
import Mathlib.Data.List.TakeWhile

/-!
Provenance: an assignment through a handle is recorded under the name of the script, if a function of the
script is the innermost one that is active when a method of the handle is called.
-/

set_option autoImplicit false

namespace KernelConfig

open Script (Machine Value Frame Store Level Chunk Function Hook)

namespace Context

open Script Script.Prelude Script.Library Apply

/-! ### Where a call comes to -/

/-- A call comes to a place of some kind, and does nothing on its way that an apply could tell. -/
def Comes (w : Surroundings) (c₀ : Context) (G : Context → Machine → Prop) (c : Context) (m : Machine) :
    Prop :=
  ∃ c' m', Steps w (fun c _ => Quiet c₀ c) c m c' m' ∧ Quiet c₀ c' ∧ G c' m'

theorem backward_comes (w : Surroundings) (c₀ : Context) (G : Context → Machine → Prop) :
    Backward w (Quiet c₀) (Comes w c₀ G) where
  ticked := fun hc hbusy ⟨c', m', hs, hto⟩ => ⟨c', m', .next hc (.ticked hbusy) hs, hto⟩
  asked := fun hc hf ⟨c', m', hs, hto⟩ => ⟨c', m', .next hc (.asked hf) hs, hto⟩

theorem Comes.mono {w : Surroundings} {c₀ c : Context} {m : Machine} {G G' : Context → Machine → Prop}
    (h : Comes w c₀ G c m) (hG : ∀ c m, Quiet c₀ c → G c m → G' c m) : Comes w c₀ G' c m := by
  obtain ⟨c', m', hs, hquiet, hto⟩ := h
  exact ⟨c', m', hs, hquiet, hG c' m' hquiet hto⟩

section Watched

variable {w : Surroundings} {L : Context → Prop} {R : Context → Machine → Prop}
  {H : Option (Value × Nat)} {m : Machine} {l : Places} {s s' : Store}

/-- The hook of the deadline goes back to where it was called, or the call is cut short. -/
theorem safe_of_watched (hR : Backward w L R) (hL : ∀ c c', L c → Quiet c c' → L c')
    (hcut : ∀ c m, L c → CutShort c m → R c m) (hw : Watched H l s) (he : s.Extends s')
    (frames : List Frame) (depth nesting : Nat) :
    Safe L R H m ⟨s', frames, depth, nesting, false, .script⟩ := by
  rcases hw with rfl | ⟨hook, check, rfl, ht⟩
  · exact .inr (.inl rfl)
  · refine .inr (.inr (recovers_of_timed hR hL (ht.of_extends he) (fun v hfull => ?_) ?_))
    · exact fun c _ _ _ hc _ => hcut c _ hc (.inr ⟨v, rfl, hfull⟩)
    · exact fun f chunk message _ c _ _ _ hc htime _ => hcut c _ hc (.inl ⟨htime, message, rfl⟩)

end Watched

/-! ### Calls of handles -/

/-- A method of the handle of a symbol has just been called with a value, above some frames. -/
structure HandleCalled (h : HandlePlaces) (x : String) (value : Value) (below : List Frame) (m : Machine) :
    Prop where
  running : m.focus = .script
  handles : Handles h m.store
  watched : m.inHook = true ∨ ∃ l, Watched (m.hook.map fun k => (k.function, k.count)) l m.store
  called : ∃ id index self args origin isTail extraArguments isNested,
    m.frames = .script (Activation.enter m.store id (self :: args) origin isTail extraArguments
      isNested) :: below ∧
    m.store.HasFunction id index [h.setFrom] ∧ (index, setterShape) ∈ shapes ∧
    m.store.index self (.string (bytes "_name")) = .value (.text x) ∧ args.headD .nil = value

/-- The host is asked to set a symbol, for a source. -/
def AsksUnder (x : String) (value : Value) (source : Bytes) (m : Machine) : Prop :=
  ∃ trace, m.focus = .asking Capability.setAny.guestName [.text x, value, .string source, .string trace]

variable {w : Surroundings} {c : Context} {m : Machine} {h : HandlePlaces} {x : String} {value : Value}
  {below : List Frame}

/-- Calling a handle sets its symbol, for the innermost function that is active below. -/
theorem comes_to_setting (hm : HandleCalled h x value below m) {caller : Option Level}
    (hcaller : (below.filterMap Frame.level?).head? = caller)
    (hlength : ∀ l, caller = some l → (l.source m.store).length + 1 < 2 ^ 63) :
    Comes w c (fun c' m' => CutShort c' m' ∨ AsksUnder x value (callerText m.store caller) m') c m := by
  obtain ⟨id, index, self, args, origin, isTail, extraArguments, isNested, hframes, hmethod, hindex, hname,
    rfl⟩ := hm.called
  let G (c' : Context) (m' : Machine) : Prop :=
    CutShort c' m' ∨ AsksUnder x (args.headD .nil) (callerText m.store caller) m'
  let H := m.hook.map fun k => (k.function, k.count)
  have hR := backward_comes w c G
  have hcut : ∀ c' m', Quiet c c' → CutShort c' m' → Comes w c G c' m' :=
    fun c' m' hc hcut => ⟨c', m', .refl _ _, hc, .inl hcut⟩
  have hsecure : ∀ s', m.store.Extends s' →
      Secure (Quiet c) (Comes w c G) H m (m.depth + 2) m.nesting m.inHook s' := by
    intro s' he
    refine ⟨fun frames depth _ => ?_, fun frames v depth _ hfull c' _ _ _ hc _ =>
      hcut c' _ hc (.inr ⟨v, rfl, .inl hfull⟩)⟩
    cases hin : m.inHook with
    | true => exact .inl rfl
    | false =>
      obtain ⟨l, hw⟩ := hm.watched.resolve_left (by simp [hin])
      exact safe_of_watched hR (fun _ _ => Quiet.trans) hcut hw he frames depth m.nesting
  have hfollows : Follows (Quiet c) (Comes w c G) H 0 m ⟨m.store, .script (Activation.enter m.store id
      (self :: args) origin isTail extraArguments isNested) :: below, m.depth, m.nesting, m.inHook,
      .script⟩ :=
    follows_method hR hm.handles hsecure (Nat.le_refl _) hmethod hindex hname (fun h => by cases h) hcaller
      hlength fun _ _ _ _ _ _ _ _ _ _ _ _ _ c' _ _ _ hc _ => ⟨c', _, .refl _ _, hc, .inr ⟨_, rfl⟩⟩
  have hhere := hfollows c m.hook m.ticks m.environment (Quiet.refl c) ⟨rfl, fun _ _ => Nat.zero_le _⟩
  rw [← hframes, ← hm.running] at hhere
  rwa [← m.clocked_self]

/-! ### The script as the caller -/

theorem bytes_append (a b : String) : bytes (a ++ b) = bytes a ++ bytes b := by
  simp [bytes, Text.utf8]

theorem compile_of_compileScript {source code : String} {chunk : Chunk}
    (h : compileScript source code = .ok chunk) :
    compile (cString (bytes ("@" ++ source))) (bytes code) = .ok chunk := by
  unfold compileScript at h
  dsimp only at h
  split at h
  · cases h
  · split at h
    · next hcompile =>
      cases h
      exact hcompile
    · cases h

theorem cString_of_not_mem {s : Bytes} (h : 0 ∉ s) : cString s = s := by
  refine List.takeWhile_eq_self_iff.mpr fun b hb => ?_
  simpa using fun hb0 : b = 0 => h (hb0 ▸ hb)

/-- The innermost function that is active is one of a chunk. -/
def CalledBy (chunk : Chunk) (s : Store) (frames : List Frame) : Prop :=
  ∃ l id, (frames.filterMap Frame.level?).head? = some l ∧ l.function = .closure id ∧
    (s.closure id).function ∈ chunk

/-- A function of a script is known under the name of the script, behind a mark. -/
theorem callerText_of_calledBy {source code : String} {chunk : Chunk}
    (hchunk : compileScript source code = .ok chunk) (hnul : 0 ∉ bytes source) {s : Store}
    {frames : List Frame} (hcalled : CalledBy chunk s frames) :
    ∃ l, (frames.filterMap Frame.level?).head? = some l ∧
      l.source s = 64 :: bytes source ∧ callerText s (some l) = bytes source := by
  obtain ⟨l, id, hl, hid, hmem⟩ := hcalled
  have hname : cString (bytes ("@" ++ source)) = 64 :: bytes source := by
    rw [bytes_append]
    exact cString_of_not_mem (s := 64 :: bytes source) (by simpa using hnul)
  have hcompile := compile_of_compileScript hchunk
  have hsource : l.source s = 64 :: bytes source := by
    rw [← hname, ← source_of_mem_compile hcompile hmem]
    simp [Level.source, Level.function?, hid]
  exact ⟨l, hl, hsource, by rw [callerText, hsource, unmarked]⟩

/-! ### What is recorded -/

/-- A symbol has taken a value, for a source. -/
def Attributed (source x : String) (t t' : SymbolTable) : Prop :=
  ∃ before sym behind v trace, sym.name = x ∧ t.symbols = before ++ sym :: behind ∧
    t' = ⟨before ++ sym.record v ⟨source, trace⟩ :: behind, t.env⟩

/-- A setter that reports success has recorded the source that it is given, or the script's own name. -/
theorem attributed_of_reply {what : Capability} (hsets : what.sets = true) {arguments : List Datum}
    (hd : c.shared.table.Distinct)
    (hreply : (c.useCapability w what arguments).1 = .ok [.text "ok", .bool true]) :
    ∃ x, nameArgument arguments = some x ∧ Attributed (Apply.origin c.caller arguments).source x
      c.shared.table (c.useCapability w what arguments).2.shared.table := by
  have hload : what ≠ .load := by rintro rfl; cases hsets
  have hends := use_ends hload w c.caller arguments c.shared
  have huse := useCapability_eq w c what arguments
  rw [huse] at hreply ⊢
  obtain ⟨before, sym, behind, given, v, hsymbols, hname, -, -, htable⟩ := hends.changed hd hreply
  exact ⟨sym.name, hname, before, sym, behind, v, _, rfl, hsymbols, htable⟩

theorem data_of_asking {source : String} {trace : Bytes} {data : List Datum}
    (h : m.data [.text x, value, .string (bytes source), .string trace] = .ok data) :
    ∃ d t, data = [.text x, d, .text source, t] := by
  obtain ⟨behindName, rfl, hvalue⟩ := exists_of_data_text h
  obtain ⟨d, behindValue, rfl, -, hsource⟩ := exists_of_data_cons hvalue
  obtain ⟨behindSource, rfl, htrace⟩ := exists_of_data_text hsource
  obtain ⟨t, behindTrace, rfl, -, hend⟩ := exists_of_data_cons htrace
  cases hend
  exact ⟨d, t, rfl⟩

theorem focus_answer (m : Machine) (vs : List Value) : (m.answer vs).focus = .deliver vs := by
  unfold Machine.answer
  split <;> rfl

/-- What a setter replies when a script is told that it has succeeded. -/
theorem reply_of_granted {what : Capability} (hsets : what.sets = true) {arguments reply : List Datum}
    (hreply : (c.useCapability w what arguments).1 = .ok reply)
    (hgranted : reply.map Value.ofDatum = [.text "ok", .bool true]) :
    reply = [.text "ok", .bool true] := by
  have hload : what ≠ .load := by rintro rfl; cases hsets
  have hends := use_ends hload w c.caller arguments c.shared
  rw [useCapability_eq] at hreply
  have herror : Value.text "error" ≠ .text "ok" := by decide
  rcases hends.shape hreply with ⟨-, rfl⟩ | ⟨-, _, rfl⟩ | ⟨hshows, -⟩ | ⟨_, rfl⟩
  · rfl
  · simp [Value.ofDatum] at hgranted
  · cases hsets.symm.trans hshows
  · exact absurd (List.cons.inj hgranted).1 herror

/-- A script that gets something for an answer has been given a reply. -/
theorem answer_of_deliver {name : String} {arguments vs : List Value}
    (h : (answer w c m name arguments).1.focus = .deliver vs) :
    let responded := respond w { c with shared := { c.shared with ticks := m.ticks } } m name arguments
    ∃ reply, responded.1 = .ok reply ∧ reply.map Value.ofDatum = vs ∧
      (answer w c m name arguments).2 = responded.2 := by
  intro responded
  rcases hr : responded with ⟨f | reply, c'⟩
  · unfold answer at h
    simp only [responded] at hr
    rw [hr] at h
    cases h
  · unfold answer at h ⊢
    simp only [responded] at hr
    rw [hr] at h ⊢
    rw [focus_answer] at h
    exact ⟨reply, rfl, Focus.deliver.inj h, rfl⟩

/-- A setting that is granted is recorded for the source for which the host is asked. -/
theorem attributed_of_granted {source : String} (hd : c.shared.table.Distinct) {trace : Bytes}
    (hgranted : (answer w c m Capability.setAny.guestName
      [.text x, value, .string (bytes source), .string trace]).1.focus =
        .deliver [.text "ok", .bool true]) :
    Attributed source x c.shared.table (answer w c m Capability.setAny.guestName
      [.text x, value, .string (bytes source), .string trace]).2.shared.table := by
  obtain ⟨reply, hreply, hok, hafter⟩ := answer_of_deliver hgranted
  rw [hafter]
  cases hdata : m.data [.text x, value, .string (bytes source), .string trace] with
  | error f =>
    rw [respond_error hdata] at hreply
    cases hreply
  | ok data =>
    rw [respond_eq hdata] at hreply ⊢
    obtain ⟨d, t, rfl⟩ := data_of_asking hdata
    rw [reply_of_granted rfl hreply hok] at hreply
    obtain ⟨x', hx', hattributed⟩ := attributed_of_reply
      (c := { c with shared := { c.shared with ticks := m.ticks } }) rfl hd hreply
    cases hx'
    exact hattributed

/-! ### The result -/

/-- The host is asked to set a symbol, and once it has done so the value is attributed to a source. -/
def SetsFor (w : Surroundings) (source x : String) (value : Value) (t : SymbolTable) (c : Context)
    (m : Machine) : Prop :=
  ∃ trace, let arguments := [.text x, value, .string (bytes source), .string trace]
    m.focus = .asking Capability.setAny.guestName arguments ∧
      ((answer w c m Capability.setAny.guestName arguments).1.focus = .deliver [.text "ok", .bool true] →
        Attributed source x t (answer w c m Capability.setAny.guestName arguments).2.shared.table)

/-- An assignment through a handle is attributed to the script if the innermost function that is active,
when a method of the handle is called, is one of the script's; so is one by a setter that is told no
source. -/
theorem handle_call_is_attributed (hd : c.shared.table.Distinct) (hm : HandleCalled h x value below m)
    {chunk : Chunk} (hchunk : compileScript c.caller.source c.code = .ok chunk)
    (hnul : 0 ∉ bytes c.caller.source) (hlength : (bytes c.caller.source).length + 2 < 2 ^ 63)
    (hcaller : CalledBy chunk m.store below) :
    Comes w c (fun c' m' => CutShort c' m' ∨ SetsFor w c.caller.source x value c.shared.table c' m') c m ∧
    ∀ what : Capability, what.sets = true → ∀ arguments : List Datum, arguments.length ≤ 2 →
      (c.useCapability w what arguments).1 = .ok [.text "ok", .bool true] →
      ∃ x, nameArgument arguments = some x ∧
        Attributed c.caller.source x c.shared.table (c.useCapability w what arguments).2.shared.table := by
  obtain ⟨l, hl, hsource, htext⟩ := callerText_of_calledBy hchunk hnul hcaller
  have hbound : ∀ l', some l = some l' → (l'.source m.store).length + 1 < 2 ^ 63 := by
    rintro _ ⟨⟩
    rw [hsource]
    simpa using hlength
  have hcomes := comes_to_setting (w := w) (c := c) hm hl hbound
  rw [htext] at hcomes
  refine ⟨hcomes.mono fun c' m' hquiet => Or.imp_right ?_, fun what hsets arguments hshort hreply => ?_⟩
  · rintro ⟨trace, hf⟩
    refine ⟨trace, hf, fun hgranted => ?_⟩
    have hattributed := attributed_of_granted (by rwa [hquiet.table]) hgranted
    rwa [hquiet.table] at hattributed
  · have hnone : arguments.getD 2 .null = .null := by
      rw [List.getD_eq_getElem?_getD, List.getElem?_eq_none hshort]
      rfl
    obtain ⟨x, hx, hattributed⟩ := attributed_of_reply hsets hd hreply
    rw [Apply.origin, hnone] at hattributed
    exact ⟨x, hx, hattributed⟩

/-! ### A script that calls a handle -/

/-- A function of a script that calls a method of a handle comes to the method's first instruction. -/
theorem handleCalled_tick {a a' : Activation} {rest : List Frame} {s : Store} {f self : Value}
    {args args' : List Value} {origin : Option Origin} {id index extraArguments : Nat}
    (hm : m.IsOnTop a rest) (htime : m.HasTime 1)
    (hstep : a.step m.store = .call s a' f args origin false)
    (hcallee : s.callee 100 f args = some (.closure id, self :: args', extraArguments))
    (hdepth : m.depth < Machine.depthLimit) (hhandles : Handles h s)
    (hwatched : m.inHook = true ∨ ∃ l, Watched (m.hook.map fun k => (k.function, k.count)) l s)
    (hmethod : s.HasFunction id index [h.setFrom]) (hindex : (index, setterShape) ∈ shapes)
    (hname : s.index self (.string (bytes "_name")) = .value (.text x)) :
    HandleCalled h x (args'.headD .nil) (.script a' :: rest) m.tick ∧ m.tick.store = s := by
  have hlimit : ¬ Machine.depthLimit ≤ m.depth := Nat.not_le.mpr hdepth
  have hhook : (m.executed 1).hook.map (fun k => (k.function, k.count)) =
      m.hook.map fun k => (k.function, k.count) := by
    rw [Machine.hook_executed, Option.map_map]
    rfl
  have htick : m.tick = { m.executed 1 with
      store := s, focus := .script, depth := m.depth + 1, nesting := m.nesting + 0
      frames := .script (Activation.enter s id (self :: args') origin false extraArguments false) ::
        .script a' :: rest } := by
    rw [Machine.tick_of_time hm htime, Machine.runFor_one, hstep]
    simp only [Machine.afterStep, Machine.call, Bool.false_and, Bool.false_eq_true, if_false, hcallee,
      Machine.enter, Machine.executed, hlimit, Machine.pushFrame, Frame.isNested, Activation.enter,
      Bool.toNat_false]
  rw [← hhook] at hwatched
  rw [htick]
  exact ⟨⟨rfl, hhandles, hwatched, _, _, self, args', origin, false, extraArguments, false, rfl, hmethod,
    hindex, hname, rfl⟩, rfl⟩

/-- The value that is found without a call. -/
def found? : Outcome → Option Value
  | .value v => some v
  | _ => none

theorem eq_value_of_found? {o : Outcome} {v : Value} (ho : found? o = some v) : o = .value v := by
  cases o with
  | value v' => rw [Option.some.inj ho]
  | _ => cases ho

/-- Where a method of a handle has what it uses. -/
def placesOf (s : Store) (method : Nat) : HandlePlaces :=
  let upvalue (id i : Nat) : Nat := (s.closure id).upvalues.getD i 0
  let inCell (cell : Nat) : Nat := match s.cell cell with
    | .closure id => id
    | _ => 0
  let setFrom := upvalue method 0
  let setFromId := inCell setFrom
  let origin := upvalue setFromId 0
  let setter := upvalue setFromId 1
  let originId := inCell origin
  let setterId := inCell setter
  { setFrom, origin, setter, setFromId, originId, setterId, info := upvalue originId 0
    trace := upvalue originId 1, host := upvalue setterId 0, env := upvalue setterId 1
    level := upvalue setterId 2 }

/-- A store is looked through for what handles use. -/
def hasHandles (h : HandlePlaces) (s : Store) : Bool :=
  (s.cell h.setFrom = .closure h.setFromId && s.cell h.origin = .closure h.originId &&
    s.cell h.setter = .closure h.setterId && s.cell h.info = .native .debugGetinfo &&
    s.cell h.trace = .native .debugTraceback &&
    s.cell h.host = .host (.function Capability.setAny.guestName)) &&
  (s.HasFunction h.setFromId 2 [h.origin, h.setter] && s.HasFunction h.originId 1 [h.info, h.trace] &&
    s.HasFunction h.setterId 11 [h.host, h.env, h.level]) &&
  found? (s.index (.text "") (.text "gsub")) = some (.native .stringGsub)

theorem handles_of_hasHandles {s : Store} (hs : hasHandles h s = true) : Handles h s := by
  simp only [hasHandles, Bool.and_eq_true, decide_eq_true_eq] at hs
  obtain ⟨⟨⟨⟨⟨⟨⟨hsetFrom, horigin⟩, hsetter⟩, hinfo⟩, htrace⟩, hhost⟩, ⟨hfrom, hfind⟩, hset⟩, hgsub⟩ := hs
  exact ⟨hsetFrom, horigin, hsetter, hinfo, htrace, hhost, hfrom, hfind, hset, eq_value_of_found? hgsub⟩

/-- Whether the next instruction of a function of a chunk calls the handle of a symbol, and there is no
deadline. -/
def isCalling (x : String) (chunk : Chunk) (m : Machine) : Bool :=
  match m.focus, m.frames with
  | .script, .script a :: _ =>
    match a.step m.store with
    | .call s a' f args _ false =>
      match s.callee 100 f args with
      | some (.closure id, self :: _, _) =>
        m.hook.isNone && m.depth < Machine.depthLimit && hasHandles (placesOf s id) s &&
          s.HasFunction id 8 [(placesOf s id).setFrom] &&
          found? (s.index self (.string (bytes "_name"))) = some (.text x) &&
          (s.closure a'.closure).function ∈ chunk
      | _ => false
    | _ => false
  | _, _ => false

theorem handleCalled_of_isCalling {chunk : Chunk} (hm : isCalling x chunk m = true) :
    ∃ h value below, HandleCalled h x value below m.tick ∧ CalledBy chunk m.tick.store below := by
  unfold isCalling at hm
  split at hm <;> try cases hm
  rename_i a rest hfocus hframes
  split at hm <;> try cases hm
  rename_i s a' f args origin hstep
  split at hm <;> try cases hm
  rename_i id self args' extraArguments hcallee
  simp only [Bool.and_eq_true, decide_eq_true_eq, Option.isNone_iff_eq_none] at hm
  obtain ⟨⟨⟨⟨⟨hhook, hdepth⟩, hhandles⟩, hmethod⟩, hname⟩, hmem⟩ := hm
  obtain ⟨hcalled, hstore⟩ := handleCalled_tick ⟨hfocus, hframes⟩
    (fun k hk => by cases hhook.symm.trans hk) hstep hcallee hdepth (handles_of_hasHandles hhandles)
    (.inr ⟨places, .inl (by rw [hhook, Option.map_none])⟩) hmethod
    (show (8, setterShape) ∈ shapes by simp [shapes]) (eq_value_of_found? hname)
  exact ⟨_, _, _, hcalled, _, a'.closure, rfl, rfl, hstore ▸ hmem⟩

def callingCaller : Caller where
  source := "test.cfg"
  loader := none

def callingStart : ApplyState where
  table := { symbols := [{ name := "FOO", type := .boolean }] }

def callingContext : Context := .new {} callingCaller "FOO(true)" callingStart

/-- What begins the run of a script, once its context is prepared, a number of transitions later. -/
def begun? (n : Nat) (prepared : Except Failure Unit × Context) : Option (Chunk × Machine) :=
  match prepared with
  | (.ok (), c₀) =>
    match c₀.machine, c₀.hooks, compileScript c₀.caller.source c₀.code with
    | some m, some hooks, .ok chunk =>
      let start := { m with store := (loadChunk m.store chunk).1, ticks := c₀.shared.ticks }.invoke hooks.run
        [(loadChunk m.store chunk).2]
      some (chunk, Machine.tick^[n] start)
    | _, _, _ => none
  | _ => none

theorem calling_calls : ((begun? 12 (prepare {} callingContext)).any fun (chunk, m) =>
    isCalling "FOO" chunk m) = true := by
  delta prepare loadPrelude
  rw [chunk_eq, text_eq]
  decide +kernel

theorem begins_of_begun? {n : Nat} {prepared : Except Failure Unit × Context} {chunk : Chunk}
    (hm : begun? n prepared = some (chunk, m)) :
    ∃ main c start, prepared.1 = .ok () ∧
      compileScript prepared.2.caller.source prepared.2.code = .ok chunk ∧
      Begins chunk prepared.2 main c start ∧ Machine.tick^[n] start = m := by
  unfold begun? at hm
  split at hm <;> try cases hm
  split at hm <;> cases hm
  rename_i hmachine hhooks hchunk
  exact ⟨_, _, _, rfl, hchunk, .intro hmachine hhooks, rfl⟩

theorem handle_call_is_attributed_calling :
    ∃ c₀ chunk main c start h value below, prepare {} callingContext = (.ok (), c₀) ∧
      Begins chunk c₀ main c start ∧
      let m := Machine.tick^[13] start
      c.shared.table.Distinct ∧ HandleCalled h "FOO" value below m ∧
      compileScript c.caller.source c.code = .ok chunk ∧ 0 ∉ bytes c.caller.source ∧
      (bytes c.caller.source).length + 2 < 2 ^ 63 ∧ CalledBy chunk m.store below ∧
      Comes {} c (fun c' m' => CutShort c' m' ∨ SetsFor {} "test.cfg" "FOO" value callingStart.table c' m')
        c m := by
  obtain ⟨⟨chunk, m⟩, hbegun, hcalls⟩ := (Option.any_eq_true _ _).mp calling_calls
  obtain ⟨h, value, below, hm, hcaller⟩ := handleCalled_of_isCalling hcalls
  obtain ⟨main, c, start, hok, hchunk, hbegins, rfl⟩ := begins_of_begun? hbegun
  have hnext : Machine.tick (Machine.tick^[12] start) = Machine.tick^[13] start :=
    (Function.iterate_succ_apply' Machine.tick 12 start).symm
  rw [hnext] at hm hcaller
  generalize hprepared : prepare {} callingContext = prepared at hok hchunk hbegins
  obtain ⟨_, c₀⟩ := prepared
  cases hok
  obtain ⟨hsilent, -⟩ := silent_of_prepared ⟨_, rfl⟩ hprepared
  have hcontext : c.caller = callingCaller ∧ c.code = callingContext.code ∧
      c.shared.table = callingStart.table := by
    cases hbegins with
    | intro => exact ⟨hsilent.caller, hsilent.code, hsilent.table⟩
  obtain ⟨hcaller', hcode, htable⟩ := hcontext
  have hd : c.shared.table.Distinct := by
    rw [htable]
    decide
  have hcompile : compileScript c.caller.source c.code = .ok chunk := by
    rw [hcaller', hcode, ← hchunk, hsilent.caller, hsilent.code]
    rfl
  have hnul : 0 ∉ bytes c.caller.source := by
    rw [hcaller']
    decide
  have hlength : (bytes c.caller.source).length + 2 < 2 ^ 63 := by
    rw [hcaller']
    decide
  have hresult := (handle_call_is_attributed (w := {}) hd hm hcompile hnul hlength hcaller).1
  rw [hcaller', htable] at hresult
  exact ⟨c₀, chunk, main, c, start, h, value, below, rfl, hbegins, hd, hm, hcompile, hnul,
    hlength, hcaller, hresult⟩

/-- A script whose handle is called by a function of the library. -/
def guardedContext : Context := .new {} callingCaller "pcall(FOO, true)" callingStart

theorem guarded_runs :
    let end_ := (prepare {} >>= fun _ => runScript {}) guardedContext
    (end_.1.isOk && end_.2.shared.table.symbols.map (fun s => (s.value, s.history.map (·.source))) =
      [(some (.bool true), ["[C]"])]) = true := by
  delta prepare loadPrelude
  rw [chunk_eq, text_eq]
  decide +kernel

/-- The assignment is accepted, and attributed to no script. -/
theorem guarded_call_is_not_attributed :
    let end_ := execute {} guardedContext
    end_.1 = .ok () ∧ end_.2.shared.table.symbols.map (fun s => (s.value, s.history.map (·.source))) =
      [(some (.bool true), ["[C]"])] ∧ "[C]" ≠ guardedContext.caller.source := by
  have hruns := guarded_runs
  simp only [Bool.and_eq_true, decide_eq_true_eq] at hruns
  obtain ⟨hok, hsymbols⟩ := hruns
  rcases hend : (prepare {} >>= fun _ => runScript {}) guardedContext with ⟨_ | _, c₁⟩
  · rw [hend] at hok
    cases hok
  · rw [hend] at hsymbols
    obtain ⟨_, c₀, hprepared, hrun⟩ := exists_of_bind_run hend
    rw [execute_of_prepared hprepared, hrun]
    exact ⟨rfl, hsymbols, by decide⟩

end Context

end KernelConfig
