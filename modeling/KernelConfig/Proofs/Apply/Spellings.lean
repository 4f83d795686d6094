import KernelConfig.Proofs.Apply.Globals
import KernelConfig.Proofs.Apply.Provenance
import KernelConfig.Proofs.Apply.SetterResults

/-!
Spellings: the ways in which a script can set a symbol. A handle of a symbol, called or asked to set it, does
what the setter does that is given the symbol's name, if where the script is can be told to the host.
-/

set_option autoImplicit false

namespace KernelConfig.Context

open Script Script.Prelude Script.Library
open Namespace (Binding)

/-! ### What a prepared machine has for setting symbols -/

section Prepared

variable {s : Store} {f i j : Nat}

/-- Where handles have what they use; the setter and its variables are made when the context is prepared. -/
def handlePlaces (f i j : Nat) : HandlePlaces where
  setFrom := places.setFrom
  origin := places.origin
  setter := places.setter
  info := places.info
  trace := places.traceback
  host := i
  env := places.env
  level := j
  setFromId := places.setFromHandle
  originId := places.findOrigin
  setterId := f

theorem raises_of_prepared (hp : Prepared places s) {up : Int64} (hj : s.cell j = .int up) :
    Raises s places.env j up :=
  ⟨⟨places.globals, hp.env, hp.index (k := "error") (by simp [Places.fields]) (by simp)⟩, hj⟩

theorem handles_of_prepared (hp : Prepared places s) (hf : s.cell places.setter = .closure f)
    (hfunction : s.HasFunction f 11 [i, places.env, j])
    (hi : s.cell i = .host (.function Capability.setAny.guestName)) : Handles (handlePlaces f i j) s where
  setFrom := (hp.cells (places.setFrom, .closure places.setFromHandle) (by simp [Places.cells])).2
  origin := (hp.cells (places.origin, .closure places.findOrigin) (by simp [Places.cells])).2
  setter := hf
  info := (hp.cells (places.info, .native .debugGetinfo) (by simp [Places.cells])).2
  trace := (hp.cells (places.traceback, .native .debugTraceback) (by simp [Places.cells])).2
  host := hi
  setFromFunction :=
    hp.functions (places.setFromHandle, 2, [places.origin, places.setter]) (by simp [Places.functions])
  originFunction :=
    hp.functions (places.findOrigin, 1, [places.info, places.traceback]) (by simp [Places.functions])
  setterFunction := hfunction
  gsub := hp.index_gsub

end Prepared

/-! ### The spellings -/

/-- What a script finds for setting the symbol of a binding: the setter, the handle under all globals of the
binding, and the handle's method. -/
structure Spelt (s : Store) (b : Binding) (symbolSet handle set : Value) : Prop where
  setter : s.index (.table s.globals) (.text "symbol_set") = .value symbolSet
  globals : ∀ id ∈ b.identifiers, s.index (.table s.globals) (.text id) = .value handle
  method : s.index handle (.text "set") = .value set

/-- Nothing that was there before a script has been changed on the machine on which it runs. -/
structure Undisturbed (m₀ m : Machine) : Prop extends Roomy m where
  store : m₀.store.Extends m.store
  hook : m.hook = none ∨
    m.hook.map (fun h => (h.function, h.count)) = m₀.hook.map fun h => (h.function, h.count)

section Spelt

variable {w : Surroundings} {m₀ m : Machine} {b : Binding}

theorem Rests.hook {H : Option (Value × Nat)} (h : Rests H m₀) :
    (m₀.hook.map fun h => (h.function, h.count)) = H := by
  obtain ⟨hook, harmed, hthreads⟩ := h.threads
  have hhook : m₀.hook = hook := by
    simp [Machine.hook, Machine.thread, h.current, hthreads]
  rw [hhook]
  exact harmed.isHook

theorem Undisturbed.watched (h : Undisturbed m₀ m) {H : Option (Value × Nat)} (hready : Ready H m₀) :
    Watched (m.hook.map fun h => (h.function, h.count)) places m.store := by
  rcases h.hook with hnone | hhook
  · exact .inl (by rw [hnone, Option.map_none])
  · rw [hhook, hready.rests.hook]
    exact hready.watched.of_extends h.store

/-- What the parts of a function that asks the host are, wherever it is kept. -/
theorem exists_of_grants {s : Store} {f : Nat} {level : Int64} (h : Grants s f .setAny level) :
    ∃ i j, s.HasFunction f 11 [i, places.env, j] ∧
      s.cell i = .host (.function Capability.setAny.guestName) ∧ s.cell j = .int level := by
  obtain ⟨i, j, hfunction, hcells⟩ := h
  simp only [List.forall_mem_cons, List.not_mem_nil, false_implies, implies_true, and_true] at hcells
  exact ⟨i, j, hfunction, hcells.1.2.2, hcells.2.2.2⟩

/-- Each spelling leads the host to set the symbol, and ends as that has it. -/
theorem spellings_set {H : Option (Value × Nat)} (hready : Ready H m₀) (hequipped : Equipped m₀.store)
    (hb : Binds m₀.store b) : ∃ symbolSet handle set, ∀ m, Undisturbed m₀ m →
      Spelt m.store b symbolSet handle set ∧ ∀ w c v origin,
        let place := placeText m.store (caller? m)
        Arrives w (Sets w c m b.symbol v [] m.frames place) c
          (m.call symbolSet [.text b.symbol, v] origin false) ∧
        ∀ call ∈ [(handle, [v]), (set, [handle, v])],
          Arrives w (Sets w c m b.symbol v (whereabouts m) m.frames place) c
            (m.call call.1 call.2 origin false) := by
  have hp := hready.prepared
  -- The setter of scripts and the one of handles ask for the same capability, and differ in the level of
  -- their errors.
  obtain ⟨f, hf, hgrants⟩ := hequipped.symbolSet
  obtain ⟨i, j, hfunction, hi, hj⟩ := exists_of_grants hgrants
  obtain ⟨g, hg, hgrants'⟩ := hequipped.setter
  obtain ⟨i', j', hfunction', hi', hj'⟩ := exists_of_grants hgrants'
  obtain ⟨handle, htable, hname, hglobals⟩ := hb
  refine ⟨.closure f, .table handle, .closure places.set, fun m hm => ⟨⟨?_, fun id hid => ?_, ?_⟩, ?_⟩⟩
  · rw [hm.store.globals, hp.globals]
    exact hm.store.index (Store.index_field hf (by simp)) (by simp)
  · rw [hm.store.globals]
    exact hm.store.index (hglobals id hid) (by simp)
  · exact hm.store.index (hp.index_set htable) (by simp)
  intro w c v origin place
  have hwatched := hm.watched hready
  have hsymbol := hm.store.table (hp.tables places.symbol (by simp [Places.tables]))
  -- A handle is a table: what is called is the event of its metatable, for the handle and the value.
  have hcallee : m.store.callee 100 (.table handle) [v] =
      some (.closure places.call, [.table handle, v], 1) := by
    refine callee_handle ?_ ((hm.store.table (lt_of_handleTable htable)).trans htable) [v]
    rw [Store.getText, Store.rawGet, hsymbol]
    exact hp.fields (places.symbol, "__call", .closure places.call) (by simp [Places.fields])
  have hhandles := (handles_of_prepared hp hg hfunction' hi').of_extends hm.store
  have hraises := (raises_of_prepared hp hj').of_extends hm.store
  have hself := hm.store.index hname (by simp [Value.text])
  refine ⟨arrives_symbolSet hm.toRoomy hwatched (hfunction.of_extends hm.store)
    (hm.store.cell_eq hi (by simp)) ((raises_of_prepared hp hj).of_extends hm.store), ?_⟩
  have hcall : m₀.store.HasFunction places.call 8 [places.setFrom] :=
    hp.functions (places.call, 8, [places.setFrom]) (by simp [Places.functions])
  have hset : m₀.store.HasFunction places.set 7 [places.setFrom] :=
    hp.functions (places.set, 7, [places.setFrom]) (by simp [Places.functions])
  simp only [List.forall_mem_cons, List.not_mem_nil, false_implies, implies_true, and_true]
  constructor
  · exact arrives_method hm.toRoomy hwatched hhandles hraises (hcall.of_extends hm.store)
      (show (8, setterShape) ∈ shapes by simp [shapes]) hself hcallee
  · exact arrives_method hm.toRoomy hwatched hhandles hraises (hset.of_extends hm.store)
      (show (7, setterShape) ∈ shapes by simp [shapes]) hself rfl

/-- So they all end as the setter does if what a handle tells the host can be read. -/
theorem spellings_agree {H : Option (Value × Nat)} (hready : Ready H m₀) (hequipped : Equipped m₀.store)
    (hb : Binds m₀.store b) : ∃ symbolSet handle set, ∀ m, Undisturbed m₀ m →
      Spelt m.store b symbolSet handle set ∧ ∀ w c v, ∃ e t, ∀ origin,
        Arrives w (EndsWith e t m.frames) c (m.call symbolSet [.text b.symbol, v] origin false) ∧
        ∀ call ∈ [(handle, [v]), (set, [handle, v])],
          (Readable m → Arrives w (EndsWith e t m.frames) c (m.call call.1 call.2 origin false)) ∧
          (¬ Readable m → ∃ f, Arrives w (EndsWith (.raised (.host (.failure f))) c.shared.table m.frames) c
            (m.call call.1 call.2 origin false)) := by
  obtain ⟨symbolSet, handle, set, hspellings⟩ := spellings_set hready hequipped hb
  refine ⟨symbolSet, handle, set, fun m hm => ?_⟩
  obtain ⟨hspelt, hsets⟩ := hspellings m hm
  refine ⟨hspelt, fun w c v => ⟨_, _, fun origin => ⟨(hsets w c v origin).1, fun call hcall => ?_⟩⟩⟩
  have hends := (hsets w c v origin).2 call hcall
  refine ⟨fun hreadable => ?_, fun hunreadable => ?_⟩
  · obtain ⟨hresult, hafter⟩ := settled_of_readable (w := w) (c := c) (x := b.symbol) (v := v) hreadable
      (Nat.le_refl _)
    rwa [Sets, hresult, endsWith_congr hafter] at hends
  · obtain ⟨f, hf⟩ := settled_of_unreadable (w := w) (c := c) (m := m) (x := b.symbol) (v := v) hunreadable
    refine ⟨f, ?_⟩
    rwa [Sets, hf] at hends

end Spelt

/-! ### The start of a script -/

/-- The main function of a script is at its first instruction. -/
def AtStart (main : Value) (m : Machine) : Prop :=
  ∃ id rest, main = .closure id ∧ m.focus = .script ∧
    m.frames = .script (Activation.enter m.store id [] none false 0 true) :: rest

section Start

variable {w : Surroundings} {c₀ c : Context} {m₀ m : Machine} {main : Value} {chunk : Chunk}

theorem length_source_of_compileScript {source code : String} (h : compileScript source code = .ok chunk)
    (hlength : (bytes source).length + 2 < 2 ^ 63) : (chunk.getD 0 default).source.length + 1 < 2 ^ 63 := by
  by_cases hempty : 0 < chunk.size
  · have hmem : chunk.getD 0 default ∈ chunk := by
      rw [Array.getD_eq_getD_getElem?, Array.getElem?_eq_getElem hempty]
      exact Array.getElem_mem hempty
    rw [source_of_mem_compile (compile_of_compileScript h) hmem]
    have hshort : (cString (bytes ("@" ++ source))).length ≤ (bytes ("@" ++ source)).length :=
      (List.takeWhile_prefix _).length_le
    have hmarked : (bytes ("@" ++ source)).length = 1 + (bytes source).length := by
      rw [bytes_append, List.length_append]
      rfl
    omega
  · rw [Array.getD_eq_getD_getElem?, Array.getElem?_eq_none (Nat.le_of_not_lt hempty)]
    decide

theorem Begins.starts {H : Option (Value × Nat)} (h : Begins chunk c₀ main c m)
    (hm : c₀.machine = some m₀) (hready : Ready H m₀) (hhooks : c₀.hooks = some preludeHooks)
    (hsource : (chunk.getD 0 default).source.length + 1 < 2 ^ 63) :
    Leads w (Quiet c) (fun _ m' => AtStart main m' ∧ Undisturbed m₀ m') c m := by
  cases h with
  | @intro m hooks hm' hhooks' =>
    cases hm.symm.trans hm'
    cases hhooks.symm.trans hhooks'
    -- The globals of the chunk and its main function are all that loading it adds.
    let s := (loadChunk m₀.store chunk).1
    have hkept : Prelude.Kept places m₀.store s :=
      (Prelude.Kept.addCell places _ _).trans (.addClosure places _ _)
    have hmore : m₀.store.Extends s := (Store.Extends.addCell _ _).trans (.addClosure _ _)
    have hclosure : s.closure m₀.store.closures.size =
        { chunk, index := 0, upvalues := #[m₀.store.cells.size] } := by
      show ((m₀.store.addCell (.table m₀.store.globals)).1.addClosure _).1.closure _ = _
      exact (Store.closure_addClosure _ _ _).trans (if_pos rfl)
    have hbound : m₀.store.closures.size < s.closures.size := by
      simp [s, loadChunk, Store.addClosure, Store.addCell]
    obtain ⟨hook, harmed, hinvoke⟩ := (hready.rests.withStore s).invoke
    rw [hinvoke]
    refine runs_protected (fun _ _ => Quiet.trans) (hready.prepared.of_kept hkept)
      (hready.watched.of_kept hkept) _ (fun s' call a k hs' _ _ _ _ => ?_) _ hook _ _
        ⟨⟨rfl, rfl, rfl, rfl, rfl⟩, rfl, rfl⟩ harmed
    refine .call_closure rfl ⟨Nat.lt_of_sub_eq_succ rfl, Nat.lt_of_sub_eq_succ rfl⟩
      (.reached fun c' hook ticks environment _ hh => ⟨⟨_, _, rfl, rfl, rfl⟩, ?_⟩)
    refine ⟨⟨?_, ?_, ?_⟩, hmore.trans hs', ?_⟩
    · rintro l ⟨⟩
      show (s'.closure m₀.store.closures.size).function.source.length + 1 < 2 ^ 63
      rw [hs'.closure hbound, hclosure]
      exact hsource
    · show 3 + 4 < 190000
      decide
    · show 3 < 200
      decide
    · rw [hready.rests.hook]
      exact .inr hh.isHook

end Start

/-! ### The result -/

/-- **Handles are another spelling of the setter**, as long as what they tell the host about where they are
called can be read. If no global is generated twice, a script that starts, and any that has only added to what
it has found, finds the setter, one handle under all globals of a symbol, and the handle's method; with the
same value all of them end in the same way, and leave the same table but for where assignments come from,
unless the time is over. If it cannot be read, a handle raises an error of the host and sets nothing. -/
theorem handles_spell_setter (w : Surroundings) (caller : Caller) (text : String) (s : ApplyState)
    {c₀ : Context} (hcount : s.table.names.length < 2 ^ 63)
    (hdone : prepare w (Context.new w caller text s) = (.ok (), c₀)) :
    ∃ bs m₀, Namespace.plan w.settings.symbolLead s.table.names = .ok bs ∧ c₀.machine = some m₀ ∧
      (∀ chunk main c m, (bytes caller.source).length + 2 < 2 ^ 63 →
        compileScript caller.source text = .ok chunk → Begins chunk c₀ main c m →
        Leads w (Quiet c) (fun _ m' => AtStart main m' ∧ Undisturbed m₀ m') c m) ∧
      ((bs.flatMap Binding.identifiers).Nodup → ∀ b ∈ bs, ∃ symbolSet handle set, ∀ m, Undisturbed m₀ m →
        Spelt m.store b symbolSet handle set ∧ ∀ c v, ∃ e t, ∀ origin,
          Arrives w (EndsWith e t m.frames) c (m.call symbolSet [.text b.symbol, v] origin false) ∧
          ∀ call ∈ [(handle, [v]), (set, [handle, v])],
            (Readable m → Arrives w (EndsWith e t m.frames) c (m.call call.1 call.2 origin false)) ∧
            (¬ Readable m → ∃ f, Arrives w
              (EndsWith (.raised (.host (.failure f))) c.shared.table m.frames) c
              (m.call call.1 call.2 origin false))) := by
  obtain ⟨hsilent, bs, hplan, ⟨m₀, hm₀, hinstalled, s₀, hp, hstore⟩, hhooks⟩ :=
    silent_of_prepared ⟨_, rfl⟩ hdone
  have htable : c₀.shared.table = s.table := hsilent.table
  rw [htable] at hplan
  have hshort : bs.length < 2 ^ 63 := lt_of_le_of_lt (Namespace.length_plan_le hplan) hcount
  rw [Table.visible_of_lt hshort, List.take_length] at hstore
  obtain ⟨H, hready⟩ := hinstalled.ready
  refine ⟨bs, m₀, hplan, hm₀, fun chunk main c m hlength hcompile hbegins => ?_, fun hnodup b hb => ?_⟩
  · exact hbegins.starts hm₀ hready hhooks (length_source_of_compileScript hcompile hlength)
  have hbinds : Binds m₀.store b := by
    rw [hstore]
    exact binds_of_nodup hp (isFree_of_plan hplan) hnodup hb
  obtain ⟨symbolSet, handle, set, hagree⟩ := spellings_agree hready hinstalled.equipped hbinds
  exact ⟨symbolSet, handle, set, fun m hm => ⟨(hagree m hm).1, (hagree m hm).2 w⟩⟩

/-- A script on a machine that has been prepared, before its first instruction. -/
def started (m : Machine) (chunk : Chunk) : Machine :=
  let s := (loadChunk m.store chunk).1
  { m with
    store := s
    frames := [.script (Activation.enter s m.store.closures.size [] none false 0 true)]
    depth := 1
    nesting := 1
    focus := .script }

theorem undisturbed_started {m : Machine} {chunk : Chunk}
    (hsource : ∀ l, caller? (started m chunk) = some l →
      (l.source (started m chunk).store).length + 1 < 2 ^ 63) :
    Undisturbed m (started m chunk) where
  source := hsource
  depth := show 1 + 4 < 190000 by decide
  nesting := show 1 < 200 by decide
  store := (Store.Extends.addCell _ _).trans (.addClosure _ _)
  hook := .inr rfl

/-- Whether a script can tell the host where it starts. -/
def canTell (m : Machine) : Bool :=
  (caller? m).all (fun l => (l.source m.store).length + 1 < 2 ^ 63) &&
    (whereabouts m).all fun text => (Text.decodeUtf8 text).isOk

theorem readable_of_canTell {m : Machine} (h : canTell m = true) :
    (∀ l, caller? m = some l → (l.source m.store).length + 1 < 2 ^ 63) ∧ Readable m := by
  simp only [canTell, Bool.and_eq_true, List.all_eq_true, Option.all_eq_true, decide_eq_true_eq] at h
  refine ⟨h.1, fun text htext => ?_⟩
  have hok := h.2 text htext
  cases hs : Text.decodeUtf8 text with
  | ok s => exact ⟨s, rfl⟩
  | error f =>
    rw [hs] at hok
    cases hok

/-- Where the script of a prepared context starts, if it can tell the host where that is. -/
def readableStart? (prepared : Except Failure Unit × Context) : Option (Machine × Chunk) :=
  match prepared with
  | (.ok (), c₀) =>
    match c₀.machine, compileScript c₀.caller.source c₀.code with
    | some m, .ok chunk => if canTell (started m chunk) then some (m, chunk) else none
    | _, _ => none
  | _ => none

theorem exists_of_readableStart? {prepared : Except Failure Unit × Context} {m : Machine} {chunk : Chunk}
    (h : readableStart? prepared = some (m, chunk)) :
    ∃ c₀, prepared = (.ok (), c₀) ∧ c₀.machine = some m ∧
      compileScript c₀.caller.source c₀.code = .ok chunk ∧ canTell (started m chunk) = true := by
  unfold readableStart? at h
  split at h <;> try cases h
  split at h <;> try cases h
  rename_i hm hchunk
  split at h <;> cases h
  exact ⟨_, rfl, hm, hchunk, ‹_›⟩

theorem calling_is_readable : (readableStart? (prepare {} callingContext)).isSome = true := by
  delta prepare loadPrelude
  rw [chunk_eq, text_eq]
  decide +kernel

theorem handles_spell_setter_calling : ∃ c₀ m₀ chunk b,
    prepare {} callingContext = (.ok (), c₀) ∧ c₀.machine = some m₀ ∧
    compileScript c₀.caller.source c₀.code = .ok chunk ∧
    Namespace.plan "CONFIG_" ["FOO"] = .ok [b] ∧ b = ⟨"FOO", "CONFIG_FOO", some "FOO"⟩ ∧
    let m := started m₀ chunk
    Undisturbed m₀ m ∧ Readable m ∧ ∃ symbolSet handle set, Spelt m.store b symbolSet handle set ∧
      ∀ c v, ∃ e t, ∀ origin,
        Arrives {} (EndsWith e t m.frames) c (m.call symbolSet [.text "FOO", v] origin false) ∧
        ∀ call ∈ [(handle, [v]), (set, [handle, v])],
          Arrives {} (EndsWith e t m.frames) c (m.call call.1 call.2 origin false) := by
  obtain ⟨⟨m₀, chunk⟩, hstart⟩ := Option.isSome_iff_exists.mp calling_is_readable
  obtain ⟨c₀, hprepared, hm₀, hchunk, htell⟩ := exists_of_readableStart? hstart
  obtain ⟨hsource, hreadable⟩ := readable_of_canTell htell
  have hplan : Namespace.plan "CONFIG_" ["FOO"] = .ok [⟨"FOO", "CONFIG_FOO", some "FOO"⟩] := by decide +kernel
  obtain ⟨bs, m, hbs, hm, -, hspelt⟩ :=
    handles_spell_setter {} callingCaller "FOO(true)" callingStart (by decide) hprepared
  cases hm₀.symm.trans hm
  cases hplan.symm.trans hbs
  obtain ⟨symbolSet, handle, set, hall⟩ := hspelt (by decide) _ (List.mem_singleton_self _)
  have hundisturbed := undisturbed_started hsource
  obtain ⟨hstore, hends⟩ := hall _ hundisturbed
  refine ⟨c₀, m₀, chunk, _, hprepared, hm₀, hchunk, hplan, rfl, hundisturbed, hreadable, symbolSet, handle,
    set, hstore, fun c v => ?_⟩
  obtain ⟨e, t, hboth⟩ := hends c v
  exact ⟨e, t, fun origin => ⟨(hboth origin).1, fun call hcall => ((hboth origin).2 call hcall).1 hreadable⟩⟩

/-! ### A script whose short name cannot be read -/

/-- The short form of its name begins within a letter. -/
def accentedCaller : Caller where
  source := String.ofList (List.replicate 40 'é') ++ ".py"
  loader := none

def accentedStart : ApplyState where
  table := { symbols := [{ name := "FOO", type := .boolean }, { name := "BAR", type := .boolean }] }

/-- A script that sets one symbol in some way, and if this raises an error, the other one. -/
def accentedContext (setting : String) : Context :=
  .new {} accentedCaller
    ("if not pcall(function() " ++ setting ++ " end) then symbol_set('BAR', true) end") accentedStart

/-- Whether a script has come to its end, with these values of the symbols. -/
def leaves (values : List (Option SymbolValue)) (end_ : Except Failure Unit × Context) : Bool :=
  end_.1.isOk && end_.2.shared.table.symbols.map (·.value) = values

theorem values_of_leaves {values : List (Option SymbolValue)} {c : Context}
    (h : leaves values ((prepare {} >>= fun _ => runScript {}) c) = true) :
    (execute {} c).2.shared.table.symbols.map (·.value) = values := by
  simp only [leaves, Bool.and_eq_true, decide_eq_true_eq] at h
  obtain ⟨hok, hvalues⟩ := h
  rcases hend : (prepare {} >>= fun _ => runScript {}) c with ⟨_ | _, c₁⟩
  · rw [hend] at hok
    cases hok
  · rw [hend] at hvalues
    obtain ⟨_, c₀, hprepared, hrun⟩ := exists_of_bind_run hend
    rw [execute_of_prepared hprepared, hrun]
    exact hvalues

theorem accented_leaves :
    leaves [some (.bool true), none]
      ((prepare {} >>= fun _ => runScript {}) (accentedContext "symbol_set('FOO', true)")) = true ∧
    leaves [none, some (.bool true)]
      ((prepare {} >>= fun _ => runScript {}) (accentedContext "FOO(true)")) = true := by
  delta prepare loadPrelude
  rw [chunk_eq, text_eq]
  decide +kernel

theorem accented_plan : Namespace.plan "CONFIG_" accentedStart.table.names =
    .ok [⟨"BAR", "CONFIG_BAR", some "BAR"⟩, ⟨"FOO", "CONFIG_FOO", some "FOO"⟩] := by
  decide +kernel

/-- No global is generated twice, and the setter sets the symbol; the handle raises an error instead. -/
theorem handle_of_accented_script_sets_nothing :
    (∃ bs, Namespace.plan "CONFIG_" accentedStart.table.names = .ok bs ∧
      (bs.flatMap Binding.identifiers).Nodup ∧ ⟨"FOO", "CONFIG_FOO", some "FOO"⟩ ∈ bs) ∧
    (execute {} (accentedContext "symbol_set('FOO', true)")).2.shared.table.symbols.map (·.value) =
      [some (.bool true), none] ∧
    (execute {} (accentedContext "FOO(true)")).2.shared.table.symbols.map (·.value) =
      [none, some (.bool true)] :=
  ⟨⟨_, accented_plan, by decide, by decide⟩, values_of_leaves accented_leaves.1,
    values_of_leaves accented_leaves.2⟩

end KernelConfig.Context
