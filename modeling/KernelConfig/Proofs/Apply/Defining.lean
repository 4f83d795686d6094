import KernelConfig.Proofs.Apply.Setup
import KernelConfig.Proofs.Script.Handles
import KernelConfig.Proofs.Script.Sequences

/-!
Defining: the function of the prelude that binds the handles goes through the entries of a plan one
after the other, and leaves what defining them one after the other does.
-/

set_option autoImplicit false

namespace KernelConfig.Context

open Script Script.Prelude
open Namespace (Binding)

/-- An entry as the prelude gets it. -/
def entryTable (b : Binding) : Script.Table :=
  { items := #[.text b.symbol, .text b.long, (b.bare.map Value.text).getD (.bool false)] }

/-- The tables of a plan: one for each binding, and the one that lists them. -/
structure Listed (l : Places) (s : Store) (bs : List Binding) (list : Nat) (entries : List Nat) :
    Prop where
  items : s.table list = { items := (entries.map Value.table).toArray }
  length : entries.length = bs.length
  each : ∀ (k : Nat) b, bs[k]? = some b → ∃ id, entries[k]? = some id ∧ s.table id = entryTable b
  bound : ∀ id ∈ list :: entries, id < s.tables.size ∧ id ≠ l.globals

theorem Listed.foldl_define {l : Places} {s : Store} {bs : List Binding} {list : Nat}
    {entries : List Nat} (h : Listed l s bs list entries) (done : List Binding) :
    Listed l (done.foldl (define l) s) bs list entries := by
  have hsame : ∀ id ∈ list :: entries, (done.foldl (define l) s).table id = s.table id :=
    fun id hid => table_foldl_define (h.bound id hid).1 (h.bound id hid).2 done
  have hsize : s.tables.size ≤ (done.foldl (define l) s).tables.size := by
    rw [size_foldl_define]
    exact Nat.le_add_right _ _
  refine ⟨(hsame list (by simp)).trans h.items, h.length, fun k b hb => ?_, fun id hid => ?_⟩
  · obtain ⟨id, hid, htable⟩ := h.each k b hb
    exact ⟨id, hid, (hsame id (List.mem_cons_of_mem _ (List.mem_of_getElem? hid))).trans htable⟩
  · exact ⟨Nat.lt_of_lt_of_le (h.bound id hid).1 hsize, (h.bound id hid).2⟩

section

variable {w : Surroundings} {L : Context → Prop} {P : List Value → Machine → Prop}
  {H : Option (Value × Nat)} {l : Places} {s : Store}
  (hL : ∀ c c', L c → Quiet c c' → L c')

/-- What the iterator of a list does. -/
theorem task_ipairsStep {list k : Nat} {v : Value}
    (hv : s.index (.table list) (.int (Int64.ofNat (k + 1))) = .value v) :
    (Library.task .ipairsStep [.table list, .int (Int64.ofNat k)]).run s =
      .done s (if v.isNil then [.nil] else [.int (Int64.ofNat (k + 1)), v]) := by
  have hnext : Int64.ofNat k + 1 = Int64.ofNat (k + 1) := (Int64.ofNat_add k 1).symm
  show Task.outcome (s.index (.table list) (.int (Int64.ofNat k + 1))) s _ = _
  rw [hnext, hv]
  cases v <;> rfl

theorem task_setmetatable {id m : Nat} (hid : (s.table id).metatable = none) :
    (Library.task .setmetatable [.table id, .table m]).run s =
      .done (s.updateTable id fun t => { t with metatable := some m }) [.table id] := by
  have hfield : s.metafield (.table id) (bytes "__metatable") = .nil := by
    simp [Store.metafield, Store.metatable?, hid]
  show (if (s.metafield (.table id) (bytes "__metatable")).isNil then _ else _ : Script.Task (List Value)) s _ = _
  rw [hfield]
  rfl

/-- A handle that has no name yet takes one. -/
theorem assign_name (hp : Prepared l s) {id : Nat} (hid : s.table id = { metatable := some l.symbol })
    (v : Value) : s.assign (.table id) (.text "_name") v = .stored (s.rawSet id (.text "_name") v) := by
  have hfield : (s.table l.symbol).getKey (.string newindexEvent) = .nil :=
    hp.fields (l.symbol, "__newindex", .nil) (by simp [Places.fields])
  show s.assignThrough (1999 + 1) _ _ _ = _
  rw [Store.assignThrough, Store.rawGet, hid]
  dsimp only
  rw [hfield]
  rfl

/-- The function that makes handles, at a place. -/
def making (l : Places) (chunk : Chunk) (f : Function) (origin : Option Origin) (symbol : String)
    (pc : Nat) (handle : Value) (stack : List Value) (await : Await) : Activation :=
  { closure := l.new, chunk, function := f, upvalues := #[l.env], pc
    slots := #[.value (.table l.symbol), .value handle, .value (.text symbol)], stack, varargs := []
    await, origin, isTail := false, extraArguments := 0, isNested := false }

include hL

section

variable {chunk : Chunk} {f : Function} {origin : Option Origin} {depth nesting : Nat}
  {rest : List Frame}

/-- The handle gets its name, and is the result. -/
theorem runs_nameHandle (hcode : f.ops.toList.map (·.instr) = newShape.code) (hp : Prepared l s)
    (hw : Watched H l s) {id : Nat} (hid : s.table id = { metatable := some l.symbol })
    (symbol : String) (hexposed : Frame.Exposed rest) (hdepth : depth < 50) (hnesting : nesting < 50)
    (h : Runs w L (Returned P) H 0 ⟨s.rawSet id (.text "_name") (.text symbol), rest, depth, nesting, false,
      .deliver [.table id]⟩) :
    Runs w L (Returned P) H 0 ⟨s, .script (making l chunk f origin symbol 9 (.table id) []
      (.results (.exactly 0))) :: rest, depth + 1, nesting, false, .script⟩ := by
  have hacode : ∀ pc stack, (making l chunk f origin symbol pc (.table id) stack
    (.results (.exactly 0))).code = newShape.code := fun _ _ => hcode
  have hcalm : ∀ {s}, Prepared l s → Watched H l s → ∀ a : Activation, a.toClose = [] →
      IsCalm w L (Returned P) H ⟨s, .script a :: rest, depth + 1, nesting, false, .script⟩ :=
    fun hp hw a ha => isCalm_of_watched hL hp hw ⟨ha, hexposed⟩ (by omega) (by omega)
  let s' := s.rawSet id (.text "_name") (.text symbol)
  have hk : Kept l s s' := .rawSet l s id (by decide) (inward_text _ symbol)
  have hname : (making l chunk f origin symbol 9 (.table id) [] (.results (.exactly 0))).glide s
      newShape.code 3 = some (making l chunk f origin symbol 12 (.table id)
        [.text symbol, .text "_name", .table id] (.results (.exactly 0))) := rfl
  have hstore : (making l chunk f origin symbol 12 (.table id)
      [.text symbol, .text "_name", .table id] (.results (.exactly 0))).step s = .next s'
        (making l chunk f origin symbol 13 (.table id) [] (.results (.exactly 0))) := by
    rw [Activation.step_of_code (hacode _ _)]
    show Step.ofAssigned _ (s.assign (.table id) (.text "_name") (.text symbol)) _ = _
    rw [assign_name hp hid]
    rfl
  have hresult : (making l chunk f origin symbol 13 (.table id) [] (.results (.exactly 0))).glide s'
      newShape.code 1 = some (making l chunk f origin symbol 14 (.table id) [.table id]
        (.results (.exactly 0))) := rfl
  have hret : (making l chunk f origin symbol 14 (.table id) [.table id]
      (.results (.exactly 0))).step s' = .ret s' (making l chunk f origin symbol 15 (.table id) []
        (.results (.exactly 0))) [.table id] := by
    rw [Activation.step_of_code (hacode _ _)]
    rfl
  have hp' := hp.of_kept hk
  have hw' := hw.of_kept hk
  refine .glide 3 (hacode _ _) rfl rfl (fun a ha => hcalm hp hw a ha) hname ?_
  refine .next rfl rfl (hcalm hp hw _ rfl) hstore ?_
  refine .glide 1 (hacode _ _) rfl rfl (fun a ha => hcalm hp' hw' a ha) hresult ?_
  exact .ret rfl rfl (hcalm hp' hw' _ rfl) hret h

/-- Making a handle. -/
theorem runs_new (hp : Prepared l s) (hw : Watched H l s) (symbol : String)
    (hexposed : Frame.Exposed rest) (hdepth : depth < 50) (hnesting : nesting < 50)
    (h : Runs w L (Returned P) H 0
      ⟨addHandle l s symbol, rest, depth, nesting, false, .deliver [.table s.tables.size]⟩) :
    Runs w L (Returned P) H 0 ((⟨s, rest, depth, nesting, false, .script⟩ : Spot).entered l.new
      [.table l.symbol, .nil, .text symbol] origin false) := by
  have hfunction : s.HasFunction l.new 3 [l.env] :=
    hp.functions (l.new, 3, [l.env]) (by simp [Places.functions])
  obtain ⟨f, hcode, henter⟩ := Activation.enter_of_hasFunction hfunction
    (show (3, newShape) ∈ shapes by simp [shapes]) [.table l.symbol, .nil, .text symbol] origin false
  generalize (s.closure l.new).chunk = chunk at henter
  have hacode : ∀ pc o stack await, (making l chunk f origin symbol pc o stack await).code =
    newShape.code := fun _ _ _ _ => hcode
  have hcalm : ∀ {s}, Prepared l s → Watched H l s → ∀ a : Activation, a.toClose = [] →
      IsCalm w L (Returned P) H ⟨s, .script a :: rest, depth + 1, nesting, false, .script⟩ :=
    fun hp hw a ha => isCalm_of_watched hL hp hw ⟨ha, hexposed⟩ (by omega) (by omega)
  -- The handle's table, which then gets its metatable.
  let id := s.tables.size
  let s₁ := (s.addTable {}).1
  have hk₁ : Kept l s s₁ := hp.addTable (Table.inward_empty _)
  have hp₁ := hp.of_kept hk₁
  have hw₁ := hw.of_kept hk₁
  have hplain : (s₁.table id).metatable = none := by
    rw [Store.table_addTable, if_pos rfl]
  let s₂ := s₁.updateTable id fun t => { t with metatable := some l.symbol }
  have hk₂ : Kept l s s₂ :=
    hk₁.trans (.setMetatable s₁ (fun he => Nat.lt_irrefl _ (hp.tables id he)) hp.symbol_ne_io)
  have hhandle : s₂.table id = { metatable := some l.symbol } := by
    rw [Store.table_updateTable (by simp [s₁, id, Store.addTable]), if_pos rfl,
      Store.table_addTable, if_pos rfl]
  have habsent : (making l chunk f origin symbol 0 .nil [] .nothing).glide s newShape.code 2 =
      some (making l chunk f origin symbol 2 .nil [] .nothing) := rfl
  have htable : (making l chunk f origin symbol 2 .nil [] .nothing).step s =
      .next s₁ (making l chunk f origin symbol 3 .nil [.table id] .nothing) := by
    rw [Activation.step_of_code (hacode _ _ _ _)]
    rfl
  have hset : (making l chunk f origin symbol 3 .nil [.table id] .nothing).step s₁ =
      .next s₁ (making l chunk f origin symbol 4 (.table id) [] .nothing) := by
    rw [Activation.step_of_code (hacode _ _ _ _)]
    rfl
  have hglobal : s₁.index (.table l.globals) (.string (bytes "setmetatable")) =
      .value (.native .setmetatable) := hp₁.index (by simp [Places.fields]) (by simp)
  have harguments : (making l chunk f origin symbol 4 (.table id) [] .nothing).glide s₁
      newShape.code 4 = some (making l chunk f origin symbol 8 (.table id)
        [.table l.symbol, .table id, .native .setmetatable] .nothing) := by
    simp [making, Activation.glide, newShape, getGlobal, Instr.isPlain, Step.instruction,
      Activation.push, Activation.getSlot, hp₁.env, hglobal, Step.ofOutcome]
  have hcall : (making l chunk f origin symbol 8 (.table id)
      [.table l.symbol, .table id, .native .setmetatable] .nothing).step s₁ =
      .call s₁ (making l chunk f origin symbol 9 (.table id) [] (.results (.exactly 0)))
        (.native .setmetatable) [.table id, .table l.symbol] (ofGlobal "setmetatable") false := by
    rw [Activation.step_of_code (hacode _ _ _ _)]
    rfl
  have hgot : (making l chunk f origin symbol 9 (.table id) [] (.results (.exactly 0))).resume s₂
      [.table id] = .next s₂ (making l chunk f origin symbol 9 (.table id) []
        (.results (.exactly 0))) := rfl
  have hroom : ∀ s a, (⟨s, .script a :: rest, depth + 1, nesting, false, .script⟩ : Spot).HasRoom :=
    fun _ _ => ⟨by show depth + 1 < 190000; omega, by show nesting < 200; omega⟩
  have hstart : Activation.enter s l.new [.table l.symbol, .nil, .text symbol] origin false 0 false =
      making l chunk f origin symbol 0 .nil [] .nothing := henter
  simp only [Spot.entered, Spot.push, hstart]
  refine .glide 2 (hacode _ _ _ _) rfl rfl (fun a ha => hcalm hp hw a ha) habsent ?_
  refine .next rfl rfl (hcalm hp hw _ rfl) htable (.next rfl rfl (hcalm hp₁ hw₁ _ rfl) hset ?_)
  refine .glide 4 (hacode _ _ _ _) rfl rfl (fun a ha => hcalm hp₁ hw₁ a ha) harguments ?_
  refine .task rfl rfl (hcalm hp₁ hw₁ _ rfl) (hroom _ _) hcall ?_
  refine .done (congrArg Focus.act (task_setmetatable hplain)) rfl (.deliver rfl rfl hgot ?_)
  exact runs_nameHandle hL hcode (hp.of_kept hk₂) (hw.of_kept hk₂) hhandle symbol hexposed hdepth
    hnesting h

end

/-- The function that binds the handles, at a place. -/
def defining (l : Places) (chunk : Chunk) (f : Function) (pc : Nat) (slots : List Local)
    (stack : List Value) (await : Await) : Activation :=
  { closure := l.define, chunk, function := f, upvalues := #[l.env], pc, slots := slots.toArray, stack
    varargs := [], await, origin := none, isTail := false, extraArguments := 0, isNested := true }

/-- Its variables in a round: the number of the round, what the iterator has left, the entry and the
handle. -/
def round (list : Nat) (i left entry handle : Value) : List Local :=
  [.value (.table list), .value (.native .ipairsStep), .value (.table list), .value i, .value .nil,
    .value left, .value entry, .value handle]

omit hL in
theorem index_entry {b : Binding} {id : Nat} (hentry : s.table id = entryTable b) :
    s.index (.table id) (.int 1) = .value (.text b.symbol) ∧
      s.index (.table id) (.int 2) = .value (.text b.long) ∧
      s.index (.table id) (.int 3) = .value ((b.bare.map Value.text).getD (.bool false)) := by
  have hplain : (s.table id).metatable = none := by
    rw [hentry]
    rfl
  rw [Store.index_plain hplain, Store.index_plain hplain, Store.index_plain hplain]
  simp only [Store.rawGet, hentry]
  exact ⟨rfl, rfl, rfl⟩

variable {chunk : Chunk} {f : Function} (hcode : f.ops.toList.map (·.instr) = defineShape.code)

include hcode

omit hL in
theorem defining_code (pc : Nat) (slots : List Local) (stack : List Value) (await : Await) :
    (defining l chunk f pc slots stack await).code = defineShape.code := hcode

/-- A global is bound to the handle of the round. -/
theorem runs_bindGlobal (hp : Prepared l s) (hw : Watched H l s) {pc : Nat} {k : Int64}
    {name : String} {list id handle : Nat} {i left : Value} {await : Await}
    (hpc : (pc, k) = (20, 2) ∨ (pc, k) = (31, 3))
    (hname : s.index (.table id) (.int k) = .value (.text name))
    (h : Runs w L (Returned P) H 0 ⟨bindGlobal l handle s name, [.script (defining l chunk f (pc + 7)
      (round list i left (.table id) (.table handle)) [] await), .entry], 1, 2, false, .script⟩) :
    Runs w L (Returned P) H 0 ⟨s, [.script (defining l chunk f pc
      (round list i left (.table id) (.table handle)) [] await), .entry], 1, 2, false, .script⟩ := by
  have hglobal : s.index (.table l.globals) (.string (bytes "_G")) = .value (.table l.globals) :=
    hp.index (by simp [Places.fields]) (by simp)
  have harguments : (defining l chunk f pc (round list i left (.table id) (.table handle)) []
      await).glide s defineShape.code 6 = some (defining l chunk f (pc + 6)
        (round list i left (.table id) (.table handle))
        [.table handle, .text name, .table l.globals] await) := by
    rcases hpc with h | h <;> cases h <;>
      simp [defining, round, Activation.glide, defineShape, getGlobal, Instr.isPlain,
        Step.instruction, Activation.push, Activation.getSlot, hp.env, hglobal, hname,
        Step.ofOutcome]
  have hassign : (defining l chunk f (pc + 6) (round list i left (.table id) (.table handle))
      [.table handle, .text name, .table l.globals] await).step s = .next (bindGlobal l handle s name)
        (defining l chunk f (pc + 7) (round list i left (.table id) (.table handle)) [] await) := by
    rw [Activation.step_of_code (defining_code hcode _ _ _ _)]
    have hassign : s.assign (.table l.globals) (.text name) (.table handle) =
        .stored (bindGlobal l handle s name) :=
      Store.assign_plain (hp.plain l.globals (by simp [Places.plain]))
    have hstep : ∀ (pc : Nat) a, Step.ofAssigned a (s.assign (.table l.globals) (.text name)
        (.table handle)) (ofGlobal "_G") = .next (bindGlobal l handle s name) a := by
      intro pc a
      rw [hassign]
      rfl
    rcases hpc with h | h <;> cases h
    · exact hstep 26 _
    · exact hstep 37 _
  refine .glide 6 (defining_code hcode _ _ _ _) rfl rfl (isCalm_alone hL hp hw) harguments ?_
  exact .next rfl rfl (isCalm_alone hL hp hw _ rfl) hassign h

/-- The handle of the round is made. -/
theorem runs_makeHandle (hp : Prepared l s) (hw : Watched H l s) {b : Binding} {list id : Nat}
    (hentry : s.table id = entryTable b) {i left handle : Value} {await : Await}
    (h : Runs w L (Returned P) H 0 ⟨addHandle l s b.symbol, [.script (defining l chunk f 20
      (round list i left (.table id) (.table s.tables.size)) [] (.results (.exactly 1))), .entry], 1,
      2, false, .script⟩) :
    Runs w L (Returned P) H 0 ⟨s, [.script (defining l chunk f 11
      (round list i left (.table id) handle) [] await), .entry], 1, 2, false, .script⟩ := by
  have hsymbol : s.index (.table l.globals) (.string (bytes "Symbol")) = .value (.table l.symbol) :=
    hp.index (by simp [Places.fields]) (by simp)
  have hnew : s.index (.table l.symbol) (.string (bytes "new")) = .value (.closure l.new) :=
    hp.index (by simp [Places.fields]) (by simp)
  have hname := (index_entry hentry).1
  have harguments : (defining l chunk f 11 (round list i left (.table id) handle) [] await).glide s
      defineShape.code 7 = some (defining l chunk f 18 (round list i left (.table id) handle)
        [.text b.symbol, .nil, .table l.symbol, .closure l.new] await) := by
    simp [defining, round, Activation.glide, defineShape, getGlobal, Instr.isPlain,
      Step.instruction, Activation.push, Activation.getSlot, hp.env, hsymbol, hnew, hname,
      Step.ofOutcome]
  have hcall : (defining l chunk f 18 (round list i left (.table id) handle)
      [.text b.symbol, .nil, .table l.symbol, .closure l.new] await).step s =
      .call s (defining l chunk f 19 (round list i left (.table id) handle) []
        (.results (.exactly 1))) (.closure l.new) [.table l.symbol, .nil, .text b.symbol]
        (some ⟨.method, bytes "new"⟩) false := by
    rw [Activation.step_of_code (defining_code hcode _ _ _ _)]
    rfl
  have hk := kept_addHandle hp b.symbol
  have hp' := hp.of_kept hk
  have hw' := hw.of_kept hk
  have hgot : (defining l chunk f 19 (round list i left (.table id) handle) []
      (.results (.exactly 1))).resume (addHandle l s b.symbol) [.table s.tables.size] =
      .next (addHandle l s b.symbol) (defining l chunk f 19
        (round list i left (.table id) handle) [.table s.tables.size] (.results (.exactly 1))) := rfl
  have hlocal : (defining l chunk f 19 (round list i left (.table id) handle) [.table s.tables.size]
      (.results (.exactly 1))).glide (addHandle l s b.symbol) defineShape.code 1 =
      some (defining l chunk f 20 (round list i left (.table id) (.table s.tables.size)) []
        (.results (.exactly 1))) := rfl
  refine .glide 7 (defining_code hcode _ _ _ _) rfl rfl (isCalm_alone hL hp hw) harguments ?_
  refine .enter rfl rfl (isCalm_alone hL hp hw _ rfl) (Spot.hasRoom_alone _ _) hcall ?_
  refine runs_new hL hp hw b.symbol ⟨rfl, trivial⟩ (Nat.lt_of_sub_eq_succ rfl)
    (Nat.lt_of_sub_eq_succ rfl) ?_
  refine .deliver rfl rfl hgot ?_
  exact .glide 1 (defining_code hcode _ _ _ _) rfl rfl (isCalm_alone hL hp' hw') hlocal h

/-- The bare global is bound if there is one. -/
theorem runs_bindBare (hp : Prepared l s) (hw : Watched H l s) {bare : Option String}
    {list id handle : Nat} (hhandle : handle ≠ l.io) (hbare : s.index (.table id) (.int 3) =
      .value ((bare.map Value.text).getD (.bool false)))
    (hfree : ∀ name ∈ bare, IsFree name) {i left : Value} {await : Await}
    (h : Runs w L (Returned P) H 0 ⟨bare.toList.foldl (bindGlobal l handle) s, [.script (defining l chunk f 9
      (round list i left (.table id) (.table handle)) [] await), .entry], 1, 2, false, .script⟩) :
    Runs w L (Returned P) H 0 ⟨s, [.script (defining l chunk f 27
      (round list i left (.table id) (.table handle)) [] await), .entry], 1, 2, false, .script⟩ := by
  cases bare with
  | none =>
    have hskip : (defining l chunk f 27 (round list i left (.table id) (.table handle)) []
        await).glide s defineShape.code 5 = some (defining l chunk f 9
          (round list i left (.table id) (.table handle)) [] await) := by
      simp [defining, round, Activation.glide, defineShape, getGlobal, Instr.isPlain,
        Step.instruction, Activation.push, Activation.getSlot, hbare, Step.ofOutcome, Value.isTruthy]
    exact .glide 5 (defining_code hcode _ _ _ _) rfl rfl (isCalm_alone hL hp hw) hskip h
  | some name =>
    have htest : (defining l chunk f 27 (round list i left (.table id) (.table handle)) []
        await).glide s defineShape.code 4 = some (defining l chunk f 31
          (round list i left (.table id) (.table handle)) [] await) := by
      simp [defining, round, Activation.glide, defineShape, getGlobal, Instr.isPlain, Value.text,
        Step.instruction, Activation.push, Activation.getSlot, hbare, Step.ofOutcome, Value.isTruthy]
    have hk : Kept l s (bindGlobal l handle s name) := kept_bindGlobal l s hhandle (hfree name rfl)
    have hback : (defining l chunk f 38 (round list i left (.table id) (.table handle)) []
        await).glide (bindGlobal l handle s name) defineShape.code 1 = some (defining l chunk f 9
          (round list i left (.table id) (.table handle)) [] await) := rfl
    refine .glide 4 (defining_code hcode _ _ _ _) rfl rfl (isCalm_alone hL hp hw) htest ?_
    refine runs_bindGlobal hL hcode hp hw (.inr rfl) hbare ?_
    exact .glide 1 (defining_code hcode _ _ _ _) rfl rfl
      (isCalm_alone hL (hp.of_kept hk) (hw.of_kept hk)) hback h

/-- One round binds the globals of one entry. -/
theorem runs_entry (hp : Prepared l s) (hw : Watched H l s) {b : Binding} {list id : Nat}
    (hentry : s.table id = entryTable b) (hid : id < s.tables.size ∧ id ≠ l.globals)
    (hfree : ∀ name ∈ b.identifiers, IsFree name) {i left handle : Value} {await : Await}
    (h : ∀ handle await, Runs w L (Returned P) H 0 ⟨define l s b, [.script (defining l chunk f 9
      (round list i left (.table id) handle) [] await), .entry], 1, 2, false, .script⟩) :
    Runs w L (Returned P) H 0 ⟨s, [.script (defining l chunk f 11
      (round list i left (.table id) handle) [] await), .entry], 1, 2, false, .script⟩ := by
  have hk₁ := kept_addHandle hp b.symbol
  have hp₁ := hp.of_kept hk₁
  have hw₁ := hw.of_kept hk₁
  have hentry₁ : (addHandle l s b.symbol).table id = entryTable b := by
    rw [table_addHandle, if_neg (Nat.ne_of_lt hid.1), hentry]
  have hhandle : s.tables.size ≠ l.io := hp.ne_io (Nat.le_refl _)
  have hk₂ : Kept l _ (bindGlobal l s.tables.size (addHandle l s b.symbol) b.long) :=
    kept_bindGlobal l _ hhandle (hfree b.long (by simp [Binding.identifiers]))
  have hentry₂ : (bindGlobal l s.tables.size (addHandle l s b.symbol) b.long).table id =
      entryTable b := by
    rw [table_bindGlobal hid.2, hentry₁]
  refine runs_makeHandle hL hcode hp hw hentry ?_
  refine runs_bindGlobal hL hcode hp₁ hw₁ (.inl rfl) (index_entry hentry₁).2.1 ?_
  refine runs_bindBare hL hcode (hp₁.of_kept hk₂) (hw₁.of_kept hk₂) hhandle (index_entry hentry₂).2.2
    (fun name hname => hfree name ?_) (h _ _)
  simp [Binding.identifiers, Option.mem_def.mp hname]

/-- The iterator is called: there is one more round, or the rounds are over. -/
theorem runs_iterate (hp : Prepared l s) (hw : Watched H l s) {list k : Nat} {v : Value}
    (hv : s.index (.table list) (.int (Int64.ofNat (k + 1))) = .value v) {left entry handle : Value}
    {await : Await}
    (h : Runs w L (Returned P) H 0 ⟨s, [.script (if v.isNil then
        defining l chunk f 39 (round list (.int (Int64.ofNat k)) .nil .nil handle) [] (.iterate 1 2)
      else defining l chunk f 11 (round list (.int (Int64.ofNat (k + 1)))
        (.int (Int64.ofNat (k + 1))) v handle) [] (.iterate 1 2)), .entry], 1, 2, false, .script⟩) :
    Runs w L (Returned P) H 0 ⟨s, [.script (defining l chunk f 9
      (round list (.int (Int64.ofNat k)) left entry handle) [] await), .entry], 1, 2, false,
      .script⟩ := by
  have hcall : (defining l chunk f 9 (round list (.int (Int64.ofNat k)) left entry handle) []
      await).step s = .call s
        (defining l chunk f 10 (round list (.int (Int64.ofNat k)) left entry handle) [] (.iterate 1 2))
        (.native .ipairsStep) [.table list, .int (Int64.ofNat k)]
        (some ⟨.forIterator, bytes "for iterator"⟩) false := by
    rw [Activation.step_of_code (defining_code hcode _ _ _ _)]
    rfl
  have hgot : ∀ key v, (defining l chunk f 10 (round list (.int (Int64.ofNat k)) left entry handle) []
      (.iterate 1 2)).resume s (if v = .nil then [key] else [key, v]) =
      .next s (defining l chunk f 10 (round list (.int (Int64.ofNat k)) key v handle) []
        (.iterate 1 2)) := by
    intro key v
    by_cases hv : v = .nil
    · subst hv
      rfl
    · rw [if_neg hv]
      rfl
  refine .task rfl rfl (isCalm_alone hL hp hw _ rfl) (Spot.hasRoom_alone _ _) hcall ?_
  refine .done (congrArg Focus.act (task_ipairsStep hv)) rfl ?_
  cases hnil : v.isNil with
  | true =>
    rw [hnil] at h
    have hover : (defining l chunk f 10 (round list (.int (Int64.ofNat k)) .nil .nil handle) []
        (.iterate 1 2)).glide s defineShape.code 1 = some (defining l chunk f 39
          (round list (.int (Int64.ofNat k)) .nil .nil handle) [] (.iterate 1 2)) := rfl
    refine .deliver rfl rfl (hgot .nil .nil) ?_
    exact .glide 1 (defining_code hcode _ _ _ _) rfl rfl (isCalm_alone hL hp hw) hover h
  | false =>
    rw [hnil] at h
    have hsome : v ≠ .nil := by
      rintro rfl
      cases hnil
    have hround : (defining l chunk f 10 (round list (.int (Int64.ofNat k))
        (.int (Int64.ofNat (k + 1))) v handle) [] (.iterate 1 2)).glide s defineShape.code 1 =
        some (defining l chunk f 11 (round list (.int (Int64.ofNat (k + 1)))
          (.int (Int64.ofNat (k + 1))) v handle) [] (.iterate 1 2)) := rfl
    have hentry := hgot (.int (Int64.ofNat (k + 1))) v
    rw [if_neg hsome] at hentry
    refine .deliver rfl rfl hentry ?_
    exact .glide 1 (defining_code hcode _ _ _ _) rfl rfl (isCalm_alone hL hp hw) hround h

/-- The rounds that are left bind the globals of the entries that are left, as far as integers reach.
The induction is on their number. -/
theorem runs_rounds {bs : List Binding} {list : Nat} {entries : List Nat} (hp : Prepared l s)
    (hw : Watched H l s) (hlisted : Listed l s bs list entries)
    (hfree : ∀ b ∈ bs, ∀ name ∈ b.identifiers, IsFree name)
    (h : ∀ slots await, Runs w L (Returned P) H 0 ⟨(bs.take (Table.visible bs.length)).foldl (define l) s,
      [.script (defining l chunk f 39 slots [] await), .entry], 1, 2, false, .script⟩)
    {left k : Nat} (hk : k + left = Table.visible bs.length) {key entry handle : Value}
    {await : Await} :
    Runs w L (Returned P) H 0 ⟨(bs.take k).foldl (define l) s, [.script (defining l chunk f 9
      (round list (.int (Int64.ofNat k)) key entry handle) [] await), .entry], 1, 2, false,
      .script⟩ := by
  have hkept : ∀ k, Kept l s ((bs.take k).foldl (define l) s) := fun k =>
    kept_foldl_define hp fun b hb => hfree b (List.mem_of_mem_take hb)
  have hlisted' : ∀ k, Listed l ((bs.take k).foldl (define l) s) bs list entries := fun k =>
    hlisted.foldl_define (bs.take k)
  have hindex : ∀ k key, ((bs.take k).foldl (define l) s).index (.table list) key =
      .value (({ items := (entries.map Value.table).toArray } : Table).get key) := fun k key => by
    rw [Store.index_plain (by rw [(hlisted' k).items]), Store.rawGet, (hlisted' k).items]
  have hsize : (entries.map Value.table).toArray.size = bs.length := by simp [hlisted.length]
  induction left generalizing k key entry handle await with
  | zero =>
    obtain rfl : k = Table.visible bs.length := hk
    refine runs_iterate hL hcode (hp.of_kept (hkept _)) (hw.of_kept (hkept _)) (v := .nil) ?_ (h _ _)
    rw [hindex, ← hsize, Table.get_end]
  | succ left ih =>
    have hlt : k < Table.visible bs.length := by omega
    have hlt' : k < bs.length := Nat.lt_of_lt_of_le hlt (Table.visible_le _)
    obtain ⟨id, hid, hentry⟩ := (hlisted' k).each k bs[k] (List.getElem?_eq_getElem hlt')
    have hbound := (hlisted' k).bound id (List.mem_cons_of_mem _ (List.mem_of_getElem? hid))
    have hnext : (bs.take (k + 1)).foldl (define l) s =
        define l ((bs.take k).foldl (define l) s) bs[k] := by
      rw [List.take_succ_eq_append_getElem hlt', List.foldl_append]
      rfl
    refine runs_iterate hL hcode (hp.of_kept (hkept k)) (hw.of_kept (hkept k)) (v := .table id) ?_ ?_
    · rw [hindex, Table.get_item (by rwa [hsize])]
      simp [hid]
    · refine runs_entry hL hcode (hp.of_kept (hkept k)) (hw.of_kept (hkept k)) hentry hbound
        (hfree _ (List.getElem_mem hlt')) fun handle await => ?_
      rw [← hnext]
      exact ih (by omega)

omit hcode in
/-- Defining the bindings of a plan. -/
theorem runs_define {bs : List Binding} {list : Nat} {entries : List Nat} (hp : Prepared l s)
    (hw : Watched H l s) (hlisted : Listed l s bs list entries)
    (hfree : ∀ b ∈ bs, ∀ name ∈ b.identifiers, IsFree name)
    (h : ∀ hook ticks environment, Armed H 0 hook →
      P [] ((⟨(bs.take (Table.visible bs.length)).foldl (define l) s, [.entry], 0, 1, false,
        .finished (.ok [])⟩ : Spot).machine hook ticks environment)) :
    Runs w L (Returned P) H 0 (Spot.called s (.closure l.define) [.table list]) := by
  have hfunction : s.HasFunction l.define 26 [l.env] :=
    hp.functions (l.define, 26, [l.env]) (by simp [Places.functions])
  refine .called hfunction (show (26, defineShape) ∈ shapes by simp [shapes])
    fun f chunk hcode _ => ?_
  have hipairs : s.index (.table l.globals) (.string (bytes "ipairs")) = .value (.native .ipairs) :=
    hp.index (by simp [Places.fields]) (by simp)
  let slots (f state control closing : Value) : List Local :=
    [.value (.table list), .value f, .value state, .value control, .value closing, .value .nil,
      .value .nil, .value .nil]
  have harguments : (defining l chunk f 0 (slots .nil .nil .nil .nil) [] .nothing).glide s
      defineShape.code 3 = some (defining l chunk f 3 (slots .nil .nil .nil .nil)
        [.table list, .native .ipairs] .nothing) := by
    simp [defining, slots, Activation.glide, defineShape, getGlobal, Instr.isPlain,
      Step.instruction, Activation.push, Activation.getSlot, hp.env, hipairs, Step.ofOutcome]
  have hcall : (defining l chunk f 3 (slots .nil .nil .nil .nil) [.table list, .native .ipairs]
      .nothing).step s = .call s (defining l chunk f 4 (slots .nil .nil .nil .nil) []
        (.results (.exactly 4))) (.native .ipairs) [.table list] (ofGlobal "ipairs") false := by
    rw [Activation.step_of_code (defining_code hcode _ _ _ _)]
    rfl
  have htask : (Library.task .ipairs [.table list]).run s =
      .done s [.native .ipairsStep, .table list, .int 0] := rfl
  have hgot : (defining l chunk f 4 (slots .nil .nil .nil .nil) [] (.results (.exactly 4))).resume s
      [.native .ipairsStep, .table list, .int 0] = .next s (defining l chunk f 4
        (slots .nil .nil .nil .nil) [.nil, .int 0, .table list, .native .ipairsStep]
        (.results (.exactly 4))) := rfl
  have hlocals : (defining l chunk f 4 (slots .nil .nil .nil .nil)
      [.nil, .int 0, .table list, .native .ipairsStep] (.results (.exactly 4))).glide s
      defineShape.code 4 = some (defining l chunk f 8 (round list (.int (Int64.ofNat 0)) .nil .nil .nil)
        [] (.results (.exactly 4))) := rfl
  have hclose : (defining l chunk f 8 (round list (.int (Int64.ofNat 0)) .nil .nil .nil) []
      (.results (.exactly 4))).step s = .next s (defining l chunk f 9
        (round list (.int (Int64.ofNat 0)) .nil .nil .nil) [] (.results (.exactly 4))) := by
    rw [Activation.step_of_code (defining_code hcode _ _ _ _)]
    rfl
  refine .glide 3 (defining_code hcode _ _ _ _) rfl rfl (isCalm_alone hL hp hw) harguments ?_
  refine .task rfl rfl (isCalm_alone hL hp hw _ rfl)
    (Spot.hasRoom_alone _ _) hcall ?_
  refine .done (congrArg Focus.act htask) rfl (.deliver rfl rfl hgot ?_)
  refine .glide 4 (defining_code hcode _ _ _ _) rfl rfl (isCalm_alone hL hp hw) hlocals ?_
  refine .next rfl rfl (isCalm_alone hL hp hw _ rfl) hclose ?_
  refine runs_rounds hL hcode hp hw hlisted hfree (fun slots await => ?_) (Nat.zero_add _)
  -- The rounds are over.
  have hk : Kept l s ((bs.take (Table.visible bs.length)).foldl (define l) s) :=
    kept_foldl_define hp fun b hb => hfree b (List.mem_of_mem_take hb)
  have hp' := hp.of_kept hk
  have hw' := hw.of_kept hk
  generalize (bs.take (Table.visible bs.length)).foldl (define l) s = s' at h hp' hw'
  have hend : (defining l chunk f 39 slots [] await).step s' =
      .next s' (defining l chunk f 40 slots [] await) := by
    rw [Activation.step_of_code (defining_code hcode _ _ _ _)]
    rfl
  have hret : (defining l chunk f 40 slots [] await).step s' =
      .ret s' (defining l chunk f 41 slots [] await) [] := by
    rw [Activation.step_of_code (defining_code hcode _ _ _ _)]
    rfl
  refine .next rfl rfl (isCalm_alone hL hp' hw' _ rfl) hend ?_
  refine .ret rfl rfl (isCalm_alone hL hp' hw' _ rfl) hret ?_
  exact .returned rfl rfl fun hook ticks environment harmed => h hook ticks environment harmed

end

end KernelConfig.Context
