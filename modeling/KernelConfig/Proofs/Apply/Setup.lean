import KernelConfig.Proofs.Apply.Deadline
import KernelConfig.Proofs.Script.Handles

/-!
Setup: what the functions of the prelude do that the program calls before it runs a script.
-/

set_option autoImplicit false

namespace KernelConfig

open Script Script.Prelude

/-- A function is called by the host. -/
def Script.Spot.called (s : Store) (f : Value) (args : List Value) : Spot :=
  ⟨s, [.entry], 0, 1, false, .call f args none true⟩

/-- A function that is alone on the stack can call another one. -/
theorem Script.Spot.hasRoom_alone (s : Store) (frames : List Frame) :
    (⟨s, frames, 1, 2, false, .script⟩ : Spot).HasRoom :=
  ⟨Nat.lt_of_sub_eq_succ rfl, Nat.lt_of_sub_eq_succ rfl⟩

namespace Context

/-- A machine between two calls, with one thread. -/
structure Rests (H : Option (Value × Nat)) (m : Machine) : Prop where
  threads : ∃ hook, Armed H 0 hook ∧ m.threads = #[{ state := .active, hook }]
  current : m.current = 0
  waiting : m.waiting = []
  inHook : m.inHook = false

theorem rests_machine {H : Option (Value × Nat)} {n : Nat} {hook : Option Hook} (hh : Armed H n hook)
    {p : Spot} (hp : p.inHook = false) (ticks : Nat) (environment : List (String × String)) :
    Rests H (p.machine hook ticks environment) :=
  ⟨⟨hook, ⟨hh.isHook, fun _ _ => Nat.zero_le _⟩, rfl⟩, rfl, rfl, hp⟩

/-- A call that the program begins. -/
theorem Rests.invoke {H : Option (Value × Nat)} {m : Machine} (h : Rests H m) :
    ∃ hook, Armed H 0 hook ∧ ∀ ticks f args, { m with ticks }.invoke f args =
      (Spot.called m.store f args).machine hook ticks m.environment := by
  obtain ⟨⟨hook, harmed, hthreads⟩, hcurrent, hwaiting, hin⟩ := h
  refine ⟨hook, harmed, fun ticks f args => ?_⟩
  cases m
  simp only at hthreads hcurrent hwaiting hin
  subst hthreads hcurrent hwaiting hin
  rfl

/-- What a call of the program leaves, if it can be followed to its end. -/
theorem callWithin_of_runs {w : Surroundings} {P : List Value → Machine → Prop}
    {H : Option (Value × Nat)} (fuel : Nat) {f : Value} {args : List Value} {c : Context} {m : Machine}
    (hm : c.machine = some m) (hr : Rests H m)
    (h : Runs w (Quiet c) (Returned P) H 0 (Spot.called m.store f args)) :
    ∃ r m' c', callWithin w fuel f args c = (.ok r, c') ∧ Quiet c c' ∧ c'.machine = some m' ∧
      Leaves P r m' := by
  refine callWithin_of_leads fuel hm ?_
  obtain ⟨hook, harmed, hinvoke⟩ := hr.invoke
  rw [hinvoke]
  exact h _ hook _ _ ⟨⟨rfl, rfl, rfl, rfl, rfl⟩, rfl, rfl⟩ harmed

section Functions

variable {w : Surroundings} {L : Context → Prop} {P : List Value → Machine → Prop}
  {H : Option (Value × Nat)} {n : Nat} {l : Places} {s : Store}

/-- A call of a function of the prelude begins with its first instruction. -/
theorem Runs.called {G : Context → Machine → Prop} {id index : Nat} {upvalues : List Nat} {shape : Shape}
    {args : List Value} (hfunction : s.HasFunction id index upvalues) (hshape : (index, shape) ∈ shapes)
    (h : ∀ (f : Function) (chunk : Chunk), f.ops.toList.map (·.instr) = shape.code → Known chunk →
      Runs w L G H n ⟨s, [.script
        { closure := id, chunk, function := f, upvalues := upvalues.toArray
          slots := Activation.fillSlots (Array.replicate shape.slots (.value .nil)) 0
            shape.parameters args
          varargs := if shape.varargs then args.drop shape.parameters else []
          origin := none, isTail := false, extraArguments := 0, isNested := true }, .entry],
        1, 2, false, .script⟩) :
    Runs w L G H n (Spot.called s (.closure id) args) := by
  refine .call_closure rfl ⟨Nat.lt_of_sub_eq_succ rfl, Nat.lt_of_sub_eq_succ rfl⟩ ?_
  obtain ⟨f, hcode, henter⟩ := Activation.enter_of_hasFunction hfunction hshape args none true
  have hstart := h f (s.closure id).chunk hcode hfunction.known
  simp only [Spot.entered, Spot.called, Spot.push, henter]
  exact hstart

/-- The function that asks the host for something, when it has just been made. -/
theorem wraps_addClosure (hp : Prepared l s) {chunk : Chunk} (hknown : Known chunk) (host level : Value) :
    let s₂ := ((s.addCell host).1.addCell level).1
    Wraps l (s₂.addClosure
      { chunk, index := 11, upvalues := #[s.cells.size, l.env, (s.addCell host).1.cells.size] }).1
      s₂.closures.size host level := by
  intro s₂
  let made : Closure :=
    { chunk, index := 11, upvalues := #[s.cells.size, l.env, (s.addCell host).1.cells.size] }
  have hown : (s₂.addClosure made).1.closure s₂.closures.size = made := by
    rw [Store.closure_addClosure, if_pos rfl]
  have hsize : (s.addCell host).1.cells.size = s.cells.size + 1 := by simp [Store.addCell]
  have hsize₂ : s₂.cells.size = s.cells.size + 2 := by simp [s₂, Store.addCell]
  have hnew : ∀ i, s.cells.size ≤ i → i ∉ l.changing := fun i hi hv =>
    Nat.not_lt.mpr hi (hp.changing i hv).1
  refine ⟨s.cells.size, s.cells.size + 1, ⟨?_, ?_, ?_, ?_⟩, ?_⟩
  · simp [Store.addClosure]
  · rwa [hown]
  · rw [hown]
  · rw [hown, ← hsize]
  · rintro e he
    simp only [List.mem_cons, List.not_mem_nil, or_false] at he
    rcases he with rfl | rfl
    · refine ⟨?_, hnew _ (Nat.le_refl _), ?_⟩
      · show s.cells.size < s₂.cells.size
        omega
      · show s₂.cell s.cells.size = host
        rw [Store.cell_addCell, if_neg (by omega), Store.cell_addCell, if_pos rfl]
    · refine ⟨?_, hnew _ (Nat.le_succ _), ?_⟩
      · show s.cells.size + 1 < s₂.cells.size
        omega
      · show s₂.cell (s.cells.size + 1) = level
        rw [Store.cell_addCell, if_pos hsize.symm]

/-- Wrapping a function of the host makes a function and shares two variables with it. -/
theorem runs_wrap (hp : Prepared l s) (host level : Value)
    (h : ∀ s' id hook ticks environment, Kept l s s' → Wraps l s' id host level → Armed none 0 hook →
      P [.closure id] ((⟨s', [.entry], 0, 1, false, .finished (.ok [.closure id])⟩ : Spot).machine hook
        ticks environment)) :
    Runs w L (Returned P) none 0 (Spot.called s (.closure l.wrap) [host, level]) := by
  have hfunction : s.HasFunction l.wrap 10 [l.env] :=
    hp.functions (l.wrap, 10, [l.env]) (by simp [Places.functions])
  refine .called hfunction (show (10, wrapShape) ∈ shapes by simp [shapes]) fun f chunk hcode hknown => ?_
  let act (pc : Nat) (slots : List Local) (stack : List Value) : Activation :=
    { closure := l.wrap, chunk, function := f, upvalues := #[l.env], pc, slots := slots.toArray, stack
      varargs := [], origin := none, isTail := false, extraArguments := 0, isNested := true }
  have hacode : ∀ pc slots stack, (act pc slots stack).code = wrapShape.code := fun _ _ _ => hcode
  have hcaptures : (chunk.getD 11 default).captures = [.slot 0, .upvalue 0, .slot 1] :=
    hknown.captures (11, [.slot 0, .upvalue 0, .slot 1]) (by simp [captures])
  let s₂ := ((s.addCell host).1.addCell level).1
  let s₃ := (s₂.addClosure
    { chunk, index := 11, upvalues := #[s.cells.size, l.env, (s.addCell host).1.cells.size] }).1
  have hclosure : (act 0 [.value host, .value level] []).step s = .next s₃
      (act 1 [.shared s.cells.size, .shared (s.addCell host).1.cells.size]
        [.closure s₂.closures.size]) := by
    rw [Activation.step_of_code (hacode _ _ _)]
    show Step.instruction s (act 1 [.value host, .value level] []) (.closure 11) = _
    rw [Activation.instruction_closure hcaptures]
    rfl
  have hkept : Kept l s s₃ :=
    (((Kept.addCell l s host).trans (.addCell l _ level)).trans (.addClosure l _ _))
  have hret : (act 1 [.shared s.cells.size, .shared (s.addCell host).1.cells.size]
      [.closure s₂.closures.size]).step s₃ = .ret s₃
      (act 2 [.shared s.cells.size, .shared (s.addCell host).1.cells.size] [])
      [.closure s₂.closures.size] := by
    rw [Activation.step_of_code (hacode _ _ _)]
    rfl
  refine .next rfl rfl (.inr (.inl rfl)) hclosure (.ret rfl rfl (.inr (.inl rfl)) hret ?_)
  exact .returned rfl rfl fun hook ticks environment harmed =>
    h s₃ _ hook ticks environment hkept (wraps_addClosure hp hknown host level) harmed

/-- Binding the setter of handles changes one variable. -/
theorem runs_bindSetter (hp : Prepared l s) (setter : Value)
    (h : ∀ hook ticks environment, Armed none 0 hook →
      P [] ((⟨s.setCell l.setter setter, [.entry], 0, 1, false, .finished (.ok [])⟩ : Spot).machine hook
        ticks environment)) :
    Runs w L (Returned P) none 0 (Spot.called s (.closure l.bindSetter) [setter]) := by
  have hfunction : s.HasFunction l.bindSetter 12 [l.setter] :=
    hp.functions (l.bindSetter, 12, [l.setter]) (by simp [Places.functions])
  refine .called hfunction (show (12, bindSetterShape) ∈ shapes by simp [shapes])
    fun f chunk hcode _ => ?_
  let act (pc : Nat) (stack : List Value) : Activation :=
    { closure := l.bindSetter, chunk, function := f, upvalues := #[l.setter], pc
      slots := #[.value setter], stack, varargs := [], origin := none, isTail := false
      extraArguments := 0, isNested := true }
  have hacode : ∀ pc stack, (act pc stack).code = bindSetterShape.code := fun _ _ => hcode
  have hget : (act 0 []).step s = .next s (act 1 [setter]) := by
    rw [Activation.step_of_code (hacode _ _)]
    rfl
  have hset : (act 1 [setter]).step s = .next (s.setCell l.setter setter) (act 2 []) := by
    rw [Activation.step_of_code (hacode _ _)]
    rfl
  have hret : (act 2 []).step (s.setCell l.setter setter) =
      .ret (s.setCell l.setter setter) (act 3 []) [] := by
    rw [Activation.step_of_code (hacode _ _)]
    rfl
  have hcalm : ∀ p, IsCalm w L (Returned P) none p := fun _ => .inr (.inl rfl)
  refine .next rfl rfl (hcalm _) hget (.next rfl rfl (hcalm _) hset ?_)
  exact .ret rfl rfl (hcalm _) hret (.returned rfl rfl h)

/-! ### The protected calls -/

section

variable {chunk : Chunk} {f : Function} {origin : Option Origin} {depth nesting : Nat}
  {rest : List Frame}

/-- The function that replaces the protected calls, at a place. -/
def guarding (l : Places) (chunk : Chunk) (f : Function) (origin : Option Origin) (pc : Nat)
    (slots : List Local) (stack : List Value) : Activation :=
  { closure := l.guardCalls, chunk, function := f
    upvalues := #[l.env, l.reraise, l.rawPcall, l.rawXpcall, l.sethook], pc, slots := slots.toArray
    stack, varargs := [], origin, isTail := false, extraArguments := 0, isNested := false }

/-- The fields of the globals and of the coroutine library that the deadline replaces. -/
def replacedFields : List String := ["pcall", "xpcall", "create", "resume", "wrap"]

theorem kept_replaced (l : Places) (s : Store) (id : Nat) {k : String} (hk : k ∈ replacedFields)
    (f : Nat) : Kept l s (s.rawSet id (.text k) (.closure f)) := by
  have hfree : ∀ k ∈ replacedFields, IsFree k := by decide
  exact .rawSet l s id (hfree k hk) (inward_closure _ f)

theorem index_coroutine (hp : Prepared l s) :
    s.index (.table l.globals) (.string (bytes "coroutine")) = .value (.table l.coroutine) :=
  hp.index (by simp [Places.fields]) (by simp)

variable (hcode : f.ops.toList.map (·.instr) = guardShape.code)

include hcode

theorem guarding_code (pc : Nat) (slots : List Local) (stack : List Value) :
    (guarding l chunk f origin pc slots stack).code = guardShape.code := hcode

/-- A field is replaced. -/
theorem runs_replace (hp : Prepared l s) {pc : Nat} {slots : List Local} {made : Nat} {k : String}
    {id : Nat} {o : Option Origin} (hid : id ∈ l.plain) (hk : k ∈ replacedFields)
    (hset : guardShape.code[pc]? = some (.setIndex o))
    (h : ∀ s', Kept l s s' → Runs w L (Returned P) none 0
      ⟨s', .script (guarding l chunk f origin (pc + 1) slots []) :: rest, depth, nesting, false,
        .script⟩) :
    Runs w L (Returned P) none 0 ⟨s,
      .script (guarding l chunk f origin pc slots [.closure made, .text k, .table id]) :: rest, depth, nesting,
      false, .script⟩ := by
  have hstep : (guarding l chunk f origin pc slots [.closure made, .text k, .table id]).step s =
      .next (s.rawSet id (.text k) (.closure made)) (guarding l chunk f origin (pc + 1) slots []) := by
    rw [Activation.step_of_instruction (guarding_code hcode _ _ _) hset]
    show Step.ofAssigned _ (s.assign (.table id) (.string (bytes k)) (.closure made)) o = _
    rw [Store.assign_plain (hp.plain id hid)]
    rfl
  exact .next rfl rfl (.inr (.inl rfl)) hstep (h _ (kept_replaced l s id hk made))

/-- A function is made, which shares variables with the one that makes it. -/
theorem runs_share (hknown : Known chunk) {pc index : Nat} {slots : List Local}
    {stack : List Value} {cs : List Capture} {s' : Store} (slots' : List Local) (upvalues : Array Nat)
    (hcs : (index, cs) ∈ captures) (hclosure : guardShape.code[pc]? = some (.closure index))
    (hcapture : Activation.capture s (guarding l chunk f origin (pc + 1) slots stack) cs #[] =
      (s', guarding l chunk f origin (pc + 1) slots' stack, upvalues))
    (hk : Kept l s s')
    (h : ∀ s'' id, Kept l s s'' → Runs w L (Returned P) none 0
      ⟨s'', .script (guarding l chunk f origin (pc + 1) slots' (.closure id :: stack)) :: rest, depth,
        nesting, false, .script⟩) :
    Runs w L (Returned P) none 0 ⟨s, .script (guarding l chunk f origin pc slots stack) :: rest, depth, nesting,
      false, .script⟩ := by
  have hstep : (guarding l chunk f origin pc slots stack).step s =
      .next (s'.addClosure { chunk, index, upvalues }).1
        (guarding l chunk f origin (pc + 1) slots' (.closure s'.closures.size :: stack)) := by
    rw [Activation.step_of_instruction (guarding_code hcode _ _ _) hclosure]
    show Step.instruction s (guarding l chunk f origin (pc + 1) slots stack) (.closure index) = _
    rw [Activation.instruction_closure (hknown.captures _ hcs), hcapture]
    rfl
  exact .next rfl rfl (.inr (.inl rfl)) hstep (h _ _ (hk.trans (.addClosure l s' _)))

/-- The coroutine library and the name of a field of it. -/
theorem runs_coroutineField (hp : Prepared l s) {pc : Nat} {slots : List Local} {k : String}
    (h₀ : guardShape.code[pc]? = some (.getUpvalue 0))
    (h₁ : guardShape.code[pc + 1]? = some (.field (bytes "coroutine") (ofUpvalue "_ENV")))
    (h₂ : guardShape.code[pc + 2]? = some (.push (.text k)))
    (h : Runs w L (Returned P) none 0 ⟨s, .script (guarding l chunk f origin (pc + 3) slots
      [.text k, .table l.coroutine]) :: rest, depth, nesting, false, .script⟩) :
    Runs w L (Returned P) none 0 ⟨s, .script (guarding l chunk f origin pc slots []) :: rest, depth, nesting,
      false, .script⟩ := by
  refine .glide 3 (guarding_code hcode _ _ _) rfl rfl (fun _ _ => .inr (.inl rfl)) ?_ h
  simp [guarding, Activation.glide, h₀, h₁, h₂, Instr.isPlain, Step.instruction, Activation.push,
    hp.env, index_coroutine hp, Step.ofOutcome]

/-- Replacing the functions that make and resume coroutines; `x` and `y` are those of the library. -/
theorem runs_guardCoroutines (hknown : Known chunk) (hp : Prepared l s) (hook count x y : Value)
    (h : ∀ s', Kept l s s' → Runs w L (Returned P) none 0 ⟨s', rest, depth, nesting, false, .deliver []⟩) :
    Runs w L (Returned P) none 0 ⟨s, .script (guarding l chunk f origin 16
      [.value hook, .value count, .value x, .value y, .value .nil] []) :: rest, depth + 1, nesting,
      false, .script⟩ := by
  have hcalm : ∀ p, IsCalm w L (Returned P) none p := fun _ => .inr (.inl rfl)
  have hcoroutine : l.coroutine ∈ l.plain := by simp [Places.plain]
  -- The function that makes coroutines shares three variables, and is a variable itself.
  let c := s.cells.size
  have hlocal : (guarding l chunk f origin 16 [.value hook, .value count, .value x, .value y,
      .value .nil] []).glide s guardShape.code 2 = some (guarding l chunk f origin 18
        [.value hook, .value count, .value x, .value y, .value .nil] []) := rfl
  refine .glide 2 (guarding_code hcode _ _ _) rfl rfl (fun _ _ => hcalm _) hlocal ?_
  refine runs_share hcode hknown
    [.shared (c + 1), .shared (c + 2), .shared c, .value y, .value .nil]
    #[c, l.sethook, c + 1, c + 2]
    (show (19, [.slot 2, .upvalue 4, .slot 0, .slot 1]) ∈ captures by simp [captures]) rfl ?_
    (((Kept.addCell l s x).trans (.addCell l _ hook)).trans (.addCell l _ count)) fun s₁ id hk₁ => ?_
  · simp [Activation.capture, Activation.share, guarding, c, Store.addCell]
  have hset : (guarding l chunk f origin 19 [.shared (c + 1), .shared (c + 2), .shared c, .value y,
      .value .nil] [.closure id]).step s₁ = .next s₁ (guarding l chunk f origin 20
        [.shared (c + 1), .shared (c + 2), .shared c, .value y, .value (.closure id)] []) := by
    rw [Activation.step_of_code (guarding_code hcode _ _ _)]
    rfl
  refine .next rfl rfl (hcalm _) hset ?_
  refine runs_coroutineField hcode (hp.of_kept hk₁) (k := "create") rfl rfl rfl ?_
  have hcreate : (guarding l chunk f origin 23 [.shared (c + 1), .shared (c + 2), .shared c, .value y,
      .value (.closure id)] [.text "create", .table l.coroutine]).glide s₁ guardShape.code 1 =
      some (guarding l chunk f origin 24 [.shared (c + 1), .shared (c + 2), .shared c, .value y,
        .value (.closure id)] [.closure id, .text "create", .table l.coroutine]) := rfl
  refine .glide 1 (guarding_code hcode _ _ _) rfl rfl (fun _ _ => hcalm _) hcreate ?_
  refine runs_replace hcode (hp.of_kept hk₁) hcoroutine (by simp [replacedFields]) rfl
    fun s₂ hk₂ => ?_
  -- The functions that resume coroutines share the one of the library.
  have hk₂ := hk₁.trans hk₂
  let d := s₂.cells.size
  refine runs_coroutineField hcode (hp.of_kept hk₂) (k := "resume") rfl rfl rfl ?_
  refine runs_share hcode hknown
    [.shared (c + 1), .shared (c + 2), .shared c, .shared d, .value (.closure id)] #[l.reraise, d]
    (show (20, [.upvalue 1, .slot 3]) ∈ captures by simp [captures]) rfl ?_ (.addCell l s₂ y)
    fun s₃ _ hk₃ => ?_
  · simp [Activation.capture, Activation.share, guarding, d, Store.addCell]
  have hk₃ := hk₂.trans hk₃
  refine runs_replace hcode (hp.of_kept hk₃) hcoroutine (by simp [replacedFields]) rfl
    fun s₄ hk₄ => ?_
  have hk₄ := hk₃.trans hk₄
  let e := s₄.cells.size
  refine runs_coroutineField hcode (hp.of_kept hk₄) (k := "wrap") rfl rfl rfl ?_
  refine runs_share hcode hknown
    [.shared (c + 1), .shared (c + 2), .shared c, .shared d, .shared e] #[e, l.env, d]
    (show (21, [.slot 4, .upvalue 0, .slot 3]) ∈ captures by simp [captures]) rfl ?_
    (.addCell l s₄ (.closure id)) fun s₅ _ hk₅ => ?_
  · simp [Activation.capture, Activation.share, guarding, e, Store.addCell]
  have hk₅ := hk₄.trans hk₅
  refine runs_replace hcode (hp.of_kept hk₅) hcoroutine (by simp [replacedFields]) rfl
    fun s₆ hk₆ => ?_
  have hret : (guarding l chunk f origin 35
      [.shared (c + 1), .shared (c + 2), .shared c, .shared d, .shared e] []).step s₆ =
      .ret s₆ (guarding l chunk f origin 36
        [.shared (c + 1), .shared (c + 2), .shared c, .shared d, .shared e] []) [] := by
    rw [Activation.step_of_code (guarding_code hcode _ _ _)]
    rfl
  exact .ret rfl rfl (hcalm _) hret (h s₆ (hk₅.trans hk₆))

omit hcode in
/-- Replacing the protected calls leaves what the prelude needs. -/
theorem runs_guard (hp : Prepared l s) (hook count : Value)
    (h : ∀ s', Kept l s s' → Runs w L (Returned P) none 0 ⟨s', rest, depth, nesting, false, .deliver []⟩) :
    Runs w L (Returned P) none 0 ((⟨s, rest, depth, nesting, false, .script⟩ : Spot).entered l.guardCalls
      [hook, count] origin false) := by
  have hfunction : s.HasFunction l.guardCalls 16 [l.env, l.reraise, l.rawPcall, l.rawXpcall, l.sethook] :=
    hp.functions (l.guardCalls, 16, [l.env, l.reraise, l.rawPcall, l.rawXpcall, l.sethook])
      (by simp [Places.functions])
  obtain ⟨f, hcode, henter⟩ := Activation.enter_of_hasFunction hfunction
    (show (16, guardShape) ∈ shapes by simp [shapes]) [hook, count] origin false
  have hknown := hfunction.known
  generalize (s.closure l.guardCalls).chunk = chunk at henter hknown
  have hcalm : ∀ p, IsCalm w L (Returned P) none p := fun _ => .inr (.inl rfl)
  have hglobals : l.globals ∈ l.plain := by simp [Places.plain]
  have hplain : ∀ k, s.index (.table l.coroutine) k = .value (s.rawGet l.coroutine k) :=
    fun k => Store.index_plain (hp.plain l.coroutine (by simp [Places.plain])) k
  -- The functions of the library are put aside.
  let slots : List Local := [.value hook, .value count,
    .value (s.rawGet l.coroutine (.string (bytes "create"))),
    .value (s.rawGet l.coroutine (.string (bytes "resume"))), .value .nil]
  have hlibrary : (guarding l chunk f origin 0 [.value hook, .value count, .value .nil, .value .nil,
      .value .nil] []).glide s guardShape.code 10 =
      some (guarding l chunk f origin 10 slots [.text "pcall", .table l.globals]) := by
    simp [guarding, slots, Activation.glide, guardShape, getGlobal, Instr.isPlain, Step.instruction,
      Activation.push, Activation.newSlot, hp.env, index_coroutine hp, hplain, Step.ofOutcome]
  have hstart : Activation.enter s l.guardCalls [hook, count] origin false 0 false =
      guarding l chunk f origin 0 [.value hook, .value count, .value .nil, .value .nil, .value .nil]
        [] := henter
  simp only [Spot.entered, Spot.push, hstart]
  refine .glide 10 (guarding_code hcode _ _ _) rfl rfl (fun _ _ => hcalm _) hlibrary ?_
  refine runs_share hcode hknown slots #[l.reraise, l.rawPcall]
    (show (17, [.upvalue 1, .upvalue 2]) ∈ captures by simp [captures]) rfl rfl (.refl l s)
    fun s₁ _ hk₁ => ?_
  refine runs_replace hcode (hp.of_kept hk₁) hglobals (by simp [replacedFields]) rfl
    fun s₂ hk₂ => ?_
  have hk₂ := hk₁.trans hk₂
  have hname : (guarding l chunk f origin 12 slots []).glide s₂ guardShape.code 2 =
      some (guarding l chunk f origin 14 slots [.text "xpcall", .table l.globals]) := by
    simp [guarding, Activation.glide, guardShape, getGlobal, Instr.isPlain, Step.instruction,
      Activation.push, (hp.of_kept hk₂).env]
  refine .glide 2 (guarding_code hcode _ _ _) rfl rfl (fun _ _ => hcalm _) hname ?_
  refine runs_share hcode hknown slots #[l.reraise, l.rawXpcall]
    (show (18, [.upvalue 1, .upvalue 3]) ∈ captures by simp [captures]) rfl rfl (.refl l s₂)
    fun s₃ _ hk₃ => ?_
  have hk₃ := hk₂.trans hk₃
  refine runs_replace hcode (hp.of_kept hk₃) hglobals (by simp [replacedFields]) rfl
    fun s₄ hk₄ => ?_
  have hk₄ := hk₃.trans hk₄
  exact runs_guardCoroutines hcode hknown (hp.of_kept hk₄) hook count _ _ fun s₅ hk₅ =>
    h s₅ (hk₄.trans hk₅)

end

/-! ### The deadline -/

section

variable {chunk : Chunk} {f : Function} (hL : ∀ c c', L c → Quiet c c' → L c')

/-- The hook of the deadline, when it has just been made. -/
theorem timed_addClosure (hp : Prepared l s) (hknown : Known chunk) :
    Timed l (((s.addCell (.host (.function deadlineName))).1.addClosure
      { chunk, index := 25, upvalues := #[s.cells.size, l.expired, l.env] }).1) s.closures.size
      s.cells.size := by
  have hown : ((s.addCell (.host (.function deadlineName))).1.addClosure
      { chunk, index := 25, upvalues := #[s.cells.size, l.expired, l.env] }).1.closure
        s.closures.size = { chunk, index := 25, upvalues := #[s.cells.size, l.expired, l.env] } := by
    rw [Store.closure_addClosure]
    exact if_pos rfl
  refine ⟨⟨by simp [Store.addClosure, Store.addCell], by rwa [hown], by rw [hown], by rw [hown]⟩, ?_,
    by simp [Store.addClosure, Store.addCell], fun he => Nat.lt_irrefl _ (hp.changing _ he).1⟩
  exact (Store.cell_addCell s _ s.cells.size).trans (if_pos rfl)

/-- The function that sets the deadline, at a place, with the hook and what it asks. -/
def setting (l : Places) (chunk : Chunk) (f : Function) (check hook : Nat) (pc : Nat)
    (stack : List Value) (await : Await) : Activation :=
  { closure := l.setDeadline, chunk, function := f, upvalues := #[l.expired, l.env, l.guard, l.sethook]
    pc, slots := #[.shared check, .value (.int 10000), .value (.closure hook)], stack, varargs := []
    await, origin := none, isTail := false, extraArguments := 0, isNested := true }

include hL

/-- The hook is set. From then on it may be called. -/
theorem runs_sethook (hcode : f.ops.toList.map (·.instr) = setDeadlineShape.code) (hp : Prepared l s)
    {check hook : Nat} (ht : Timed l s hook check)
    (h : ∀ hook' ticks environment, Armed (some (.closure hook, 10000)) 0 hook' →
      P [] ((⟨s, [.entry], 0, 1, false, .finished (.ok [])⟩ : Spot).machine hook' ticks environment)) :
    Runs w L (Returned P) none 0 ⟨s, [.script (setting l chunk f check hook 8 [] (.results (.exactly 0))),
      .entry], 1, 2, false, .script⟩ := by
  have hacode : ∀ pc stack await, (setting l chunk f check hook pc stack await).code =
    setDeadlineShape.code := fun _ _ _ => hcode
  have hcalm : ∀ p, IsCalm w L (Returned P) none p := fun _ => .inr (.inl rfl)
  have hcell : s.cell l.sethook = .native .debugSethook :=
    (hp.cells (l.sethook, _) (by simp [Places.cells])).2
  have harguments : (setting l chunk f check hook 8 [] (.results (.exactly 0))).glide s
      setDeadlineShape.code 4 = some (setting l chunk f check hook 12
        [.int 10000, .text "", .closure hook, .native .debugSethook] (.results (.exactly 0))) := by
    simp [setting, Activation.glide, setDeadlineShape, Instr.isPlain, Step.instruction,
      Activation.push, Activation.getSlot, hcell]
  have hcall : (setting l chunk f check hook 12 [.int 10000, .text "", .closure hook,
      .native .debugSethook] (.results (.exactly 0))).step s =
      .call s (setting l chunk f check hook 13 [] (.results (.exactly 0))) (.native .debugSethook)
        [.closure hook, .text "", .int 10000] (ofUpvalue "sethook") false := by
    rw [Activation.step_of_code (hacode _ _ _)]
    rfl
  have htask : (Library.task .debugSethook [.closure hook, .text "", .int 10000]).run s =
      .setHook s none (some (.closure hook, 10000)) fun s => .done s [] := rfl
  have hgot : (setting l chunk f check hook 13 [] (.results (.exactly 0))).resume s [] =
      .next s (setting l chunk f check hook 13 [] (.results (.exactly 0))) := rfl
  have hret : (setting l chunk f check hook 13 [] (.results (.exactly 0))).step s =
      .ret s (setting l chunk f check hook 14 [] (.results (.exactly 0))) [] := by
    rw [Activation.step_of_code (hacode _ _ _)]
    rfl
  refine .glide 4 (hacode _ _ _) rfl rfl (fun _ _ => hcalm _) harguments ?_
  refine .task rfl rfl (hcalm _) (Spot.hasRoom_alone _ _) hcall ?_
  refine .hooked (congrArg Focus.act htask) rfl (.done rfl rfl (.deliver rfl rfl hgot ?_))
  have htimed : IsCalm w L (Returned P) (some (.closure hook, 10000)) ⟨s, [.script (setting l chunk f check hook
      13 [] (.results (.exactly 0))), .entry], 1, 2, false, .script⟩ :=
    .inr (.inr (interruptible_of_timed hL hp ht ⟨rfl, trivial⟩ (by decide) (by decide)))
  exact .ret rfl rfl htimed hret (.returned rfl rfl h)

/-- Setting the deadline leaves what the prelude needs, and a hook that asks for the deadline. -/
theorem runs_setDeadline (hp : Prepared l s)
    (h : ∀ s' f check hook ticks environment, Kept l s s' → Timed l s' f check →
      Armed (some (.closure f, 10000)) 0 hook →
      P [] ((⟨s', [.entry], 0, 1, false, .finished (.ok [])⟩ : Spot).machine hook ticks environment)) :
    Runs w L (Returned P) none 0
      (Spot.called s (.closure l.setDeadline) [.host (.function deadlineName), .int 10000]) := by
  have hfunction : s.HasFunction l.setDeadline 24 [l.expired, l.env, l.guard, l.sethook] :=
    hp.functions (l.setDeadline, 24, [l.expired, l.env, l.guard, l.sethook]) (by simp [Places.functions])
  refine .called hfunction (show (24, setDeadlineShape) ∈ shapes by simp [shapes])
    fun f chunk hcode hknown => ?_
  have hcalm : ∀ p, IsCalm w L (Returned P) none p := fun _ => .inr (.inl rfl)
  let check := s.cells.size
  let hook := s.closures.size
  let s₁ := (s.addCell (.host (.function deadlineName))).1
  let s₂ := (s₁.addClosure { chunk, index := 25, upvalues := #[check, l.expired, l.env] }).1
  -- The hook is made; its function and what it asks are variables.
  let act (pc : Nat) (slots : List Local) (stack : List Value) : Activation :=
    { setting l chunk f check hook pc stack .nothing with slots := slots.toArray }
  have hacode : ∀ pc slots stack, (act pc slots stack).code = setDeadlineShape.code :=
    fun _ _ _ => hcode
  have hlocal : (act 0 [.value (.host (.function deadlineName)), .value (.int 10000), .value .nil]
      []).glide s setDeadlineShape.code 2 = some (act 2
        [.value (.host (.function deadlineName)), .value (.int 10000), .value .nil] []) := rfl
  have hcaptures : (chunk.getD 25 default).captures = [.slot 0, .upvalue 0, .upvalue 1] :=
    congrArg Shape.captures (hknown.shapes (25, hookShape) (by simp [shapes]))
  have hclosure : (act 2 [.value (.host (.function deadlineName)), .value (.int 10000), .value .nil]
      []).step s = .next s₂ (act 3 [.shared check, .value (.int 10000), .value .nil]
        [.closure hook]) := by
    rw [Activation.step_of_code (hacode _ _ _)]
    show Step.instruction s (act 3 _ _) (.closure 25) = _
    rw [Activation.instruction_closure hcaptures]
    rfl
  have hset : (act 3 [.shared check, .value (.int 10000), .value .nil] [.closure hook]).step s₂ =
      .next s₂ (setting l chunk f check hook 4 [] .nothing) := by
    rw [Activation.step_of_code (hacode _ _ _)]
    rfl
  have hk₂ : Kept l s s₂ := (Kept.addCell l s _).trans (.addClosure l s₁ _)
  have hp₂ := hp.of_kept hk₂
  have hcell : s₂.cell l.guard = .closure l.guardCalls :=
    (hp₂.cells (l.guard, _) (by simp [Places.cells])).2
  have hguard : (setting l chunk f check hook 4 [] .nothing).glide s₂ setDeadlineShape.code 3 =
      some (setting l chunk f check hook 7 [.int 10000, .closure hook, .closure l.guardCalls]
        .nothing) := by
    simp [setting, Activation.glide, setDeadlineShape, Instr.isPlain, Step.instruction,
      Activation.push, Activation.getSlot, hcell]
  have hcall : (setting l chunk f check hook 7 [.int 10000, .closure hook, .closure l.guardCalls]
      .nothing).step s₂ = .call s₂ (setting l chunk f check hook 8 [] (.results (.exactly 0)))
        (.closure l.guardCalls) [.closure hook, .int 10000] (ofUpvalue "guard_protected_calls")
        false := by
    rw [Activation.step_of_code (a := setting l chunk f check hook 7 _ _) hcode]
    rfl
  have ht₂ : Timed l s₂ hook check := timed_addClosure hp hknown
  refine .glide 2 (hacode _ _ _) rfl rfl (fun _ _ => hcalm _) hlocal ?_
  refine .next rfl rfl (hcalm _) hclosure (.next rfl rfl (hcalm _) hset ?_)
  refine .glide 3 (a := setting l chunk f check hook 4 _ _) hcode rfl rfl (fun _ _ => hcalm _) hguard ?_
  refine .enter rfl rfl (hcalm _) (Spot.hasRoom_alone _ _) hcall ?_
  refine runs_guard hp₂ _ _ fun s₃ hk₃ => ?_
  have hk : Kept l s s₃ := hk₂.trans hk₃
  have ht : Timed l s₃ hook check := ht₂.of_kept hk₃
  have hgot : (setting l chunk f check hook 8 [] (.results (.exactly 0))).resume s₃ [] =
      .next s₃ (setting l chunk f check hook 8 [] (.results (.exactly 0))) := rfl
  refine .deliver rfl rfl hgot (runs_sethook hL hcode (hp.of_kept hk) ht ?_)
  exact fun hook' ticks environment harmed => h s₃ _ _ hook' ticks environment hk ht harmed

end

end Functions

end Context

end KernelConfig
