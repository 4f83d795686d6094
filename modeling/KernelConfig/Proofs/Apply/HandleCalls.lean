import KernelConfig.Proofs.Apply.Deadline
import KernelConfig.Proofs.Apply.Steps
import KernelConfig.Proofs.Script.Callers

/-!
Provenance: the source under which the assignments through handles are recorded.
-/

set_option autoImplicit false

namespace KernelConfig.Context

open Script Script.Prelude Script.Library

/-- A call is cut short: it is told that its time is over, or a limit on the calls that are active is
reached. -/
def CutShort (c : Context) (m : Machine) : Prop :=
  (c.timedOut = true ∧ ∃ message, m.focus = .deliver [.text "error", .text message]) ∨
  ∃ v, m.focus = .raise v ∧ (Machine.depthLimit ≤ m.depth ∨ Machine.nestingLimit ≤ m.nesting)

/-- Where the prelude has what handles use: its variables, and the functions in them. -/
structure HandlePlaces where
  setFrom : Nat
  origin : Nat
  setter : Nat
  info : Nat
  trace : Nat
  host : Nat
  env : Nat
  level : Nat
  setFromId : Nat
  originId : Nat
  setterId : Nat

/-- The functions that handles use are as the prelude has made them. -/
structure Handles (h : HandlePlaces) (s : Store) : Prop where
  setFrom : s.cell h.setFrom = .closure h.setFromId
  origin : s.cell h.origin = .closure h.originId
  setter : s.cell h.setter = .closure h.setterId
  info : s.cell h.info = .native .debugGetinfo
  trace : s.cell h.trace = .native .debugTraceback
  host : s.cell h.host = .host (.function Capability.setAny.guestName)
  setFromFunction : s.HasFunction h.setFromId 2 [h.origin, h.setter]
  originFunction : s.HasFunction h.originId 1 [h.info, h.trace]
  setterFunction : s.HasFunction h.setterId 11 [h.host, h.env, h.level]
  gsub : s.index (.text "") (.text "gsub") = .value (.native .stringGsub)

theorem Handles.of_extends {h : HandlePlaces} {s s' : Store} (hs : Handles h s) (he : s.Extends s') :
    Handles h s' where
  setFrom := he.cell_eq hs.setFrom (by simp)
  origin := he.cell_eq hs.origin (by simp)
  setter := he.cell_eq hs.setter (by simp)
  info := he.cell_eq hs.info (by simp)
  trace := he.cell_eq hs.trace (by simp)
  host := he.cell_eq hs.host (by simp)
  setFromFunction := hs.setFromFunction.of_extends he
  originFunction := hs.originFunction.of_extends he
  setterFunction := hs.setterFunction.of_extends he
  gsub := he.index hs.gsub (by simp)

/-- What stands for the source of the function that has called a method of a handle. -/
def callerText (s : Store) : Option Level → Bytes
  | some l => unmarked (l.source s)
  | none => bytes "<internal>"

/-- The store once that has been asked for: a table describes the function, if there is one. -/
def described (s : Store) : Option Level → Store
  | some l => (s.addTable (sourceTable s l)).1
  | none => s

theorem extends_described (s : Store) (caller : Option Level) : s.Extends (described s caller) := by
  cases caller with
  | none => exact .refl s
  | some l => exact .addTable s _

/-- Up to a number of active functions, nothing goes wrong if the hook is to be called, or if there is no
room for one more. -/
structure Secure (L : Context → Prop) (R : Context → Machine → Prop) (H : Option (Value × Nat)) (m : Machine)
    (top nesting : Nat) (inHook : Bool) (s : Store) : Prop where
  safe : ∀ frames, ∀ depth ≤ top, Safe L R H m ⟨s, frames, depth, nesting, inHook, .script⟩
  full : ∀ frames v, ∀ depth ≤ top, Machine.depthLimit ≤ depth →
    Follows L R H 0 m ⟨s, frames, depth, nesting, inHook, .raise v⟩

section Origin

variable {w : Surroundings} {L : Context → Prop} {R : Context → Machine → Prop}
  {H : Option (Value × Nat)} {m : Machine} {s : Store} {frames : List Frame} {depth nesting top : Nat}
  {inHook : Bool} {chunk : Chunk} {f : Function} {id info trace : Nat}

/-- The function that finds out where a handle has been called, at a place. -/
def finding (chunk : Chunk) (f : Function) (id info trace pc : Nat) (slots : List Local)
    (stack spread : List Value) (await : Await) : Activation :=
  { closure := id, chunk, function := f, upvalues := #[info, trace], pc, slots := slots.toArray, stack
    spread, varargs := [], await, origin := ofUpvalue "origin", isTail := false, extraArguments := 0
    isNested := false }

theorem finding_code (hcode : f.ops.toList.map (·.instr) = originShape.code) (pc : Nat)
    (slots : List Local) (stack spread : List Value) (await : Await) :
    (finding chunk f id info trace pc slots stack spread await).code = originShape.code := hcode

variable (hR : Backward w L R)
  (hsecure : Secure L R H m top nesting inHook s) (htop : depth + 1 ≤ top)
  (hcode : f.ops.toList.map (·.instr) = originShape.code)

include hR hsecure htop hcode

/-- The source has been found: the function adds a traceback, and gives both back. -/
theorem follows_found {info₀ source : Value}
    (htrace : s.cell trace = .native .debugTraceback)
    (h : Follows L R H 0 m ⟨s, frames, depth, nesting, inHook,
      .deliver [source, .string (tracebackText s (frames.filterMap Frame.level?) 2)]⟩) :
    Follows L R H 0 m ⟨s, .script (finding chunk f id info trace 19 [.value info₀, .value source] [] []
      (.results (.exactly 1))) :: frames, depth + 1, nesting, inHook, .script⟩ := by
  let text := tracebackText s (frames.filterMap Frame.level?) 2
  have hask : (finding chunk f id info trace 19 [.value info₀, .value source] [] []
      (.results (.exactly 1))).glide s originShape.code 4 = some (finding chunk f id info trace 23
        [.value info₀, .value source] [.int 4, .nil, .native .debugTraceback, source] []
        (.results (.exactly 1))) := by
    simp [finding, Activation.glide, originShape, Instr.isPlain, Step.instruction, Activation.push,
      Activation.getSlot, htrace]
  have hcall : (finding chunk f id info trace 23 [.value info₀, .value source]
      [.int 4, .nil, .native .debugTraceback, source] [] (.results (.exactly 1))).step s =
      .call s (finding chunk f id info trace 24 [.value info₀, .value source] [source] []
        (.results .all)) (.native .debugTraceback) [.nil, .int 4] (ofUpvalue "traceback") false := by
    rw [Activation.step_of_code (finding_code hcode _ _ _ _ _)]
    rfl
  have hgot : (finding chunk f id info trace 24 [.value info₀, .value source] [source] []
      (.results .all)).resume s [.string text] = .next s (finding chunk f id info trace 24
        [.value info₀, .value source] [source] [.string text] (.results .all)) := rfl
  have hret : (finding chunk f id info trace 24 [.value info₀, .value source] [source]
      [.string text] (.results .all)).step s = .ret s (finding chunk f id info trace 25
        [.value info₀, .value source] [] [] (.results .all)) [source, .string text] := by
    rw [Activation.step_of_code (finding_code hcode _ _ _ _ _)]
    rfl
  have hsafe := hsecure.safe
  refine .glide hR 4 (finding_code hcode _ _ _ _ _) rfl rfl (fun _ _ => hsafe _ _ htop) hask ?_
  refine .task hR rfl rfl (hsafe _ _ htop) (fun h => by cases h) hcall ?_
  obtain ⟨k, hk, htext⟩ := task_tracebackFrom s
  refine .levels hR (congrArg Focus.act hk) rfl ?_
  refine .done hR (congrArg Focus.act (htext _)) rfl ?_
  refine .deliver hR rfl rfl hgot ?_
  exact .ret hR rfl rfl (hsafe _ _ htop) hret h

/-- The function is told where the handle has been called: it takes the mark from the name of the source. -/
theorem follows_told {t : Nat} {source : Bytes} (htrace : s.cell trace = .native .debugTraceback)
    (hsource : s.index (.table t) (.string (bytes "source")) = .value (.string source))
    (hgsub : s.index (.string source) (.string (bytes "gsub")) = .value (.native .stringGsub))
    (hlength : source.length + 1 < 2 ^ 63)
    (h : Follows L R H 0 m ⟨s, frames, depth, nesting, inHook,
      .deliver [.string (unmarked source), .string (tracebackText s (frames.filterMap Frame.level?) 2)]⟩) :
    Follows L R H 0 m ⟨s, .script (finding chunk f id info trace 4 [.value .nil, .value .nil] [] []
      (.results (.exactly 1))) :: frames, depth + 1, nesting, inHook, .deliver [.table t]⟩ := by
  let slots : List Local := [.value (.table t), .value (.text "<internal>")]
  have hgot : (finding chunk f id info trace 4 [.value .nil, .value .nil] [] []
      (.results (.exactly 1))).resume s [.table t] = .next s (finding chunk f id info trace 4
        [.value .nil, .value .nil] [.table t] [] (.results (.exactly 1))) := rfl
  have hmethod : (finding chunk f id info trace 4 [.value .nil, .value .nil] [.table t] []
      (.results (.exactly 1))).glide s originShape.code 13 = some (finding chunk f id info trace 17 slots
        [.text "", .text "^[@=]", .string source, .native .stringGsub] []
        (.results (.exactly 1))) := by
    simp [finding, Activation.glide, originShape, Instr.isPlain, Step.instruction, Activation.push,
      Activation.getSlot, Activation.newSlot, Step.ofOutcome, hsource, hgsub, slots, Value.isTruthy]
  have hcall : (finding chunk f id info trace 17 slots
      [.text "", .text "^[@=]", .string source, .native .stringGsub] []
      (.results (.exactly 1))).step s = .call s (finding chunk f id info trace 18 slots [] []
        (.results (.exactly 1))) (.native .stringGsub) [.string source, .text "^[@=]", .text ""]
        (some ⟨.method, bytes "gsub"⟩) false := by
    rw [Activation.step_of_code (finding_code hcode _ _ _ _ _)]
    rfl
  have hstripped : ∀ n, (finding chunk f id info trace 18 slots [] [] (.results (.exactly 1))).resume s
      [.string (unmarked source), n] = .next s (finding chunk f id info trace 18 slots
        [.string (unmarked source)] [] (.results (.exactly 1))) := fun _ => rfl
  have hset : (finding chunk f id info trace 18 slots [.string (unmarked source)] []
      (.results (.exactly 1))).step s = .next s (finding chunk f id info trace 19
        [.value (.table t), .value (.string (unmarked source))] [] [] (.results (.exactly 1))) := by
    rw [Activation.step_of_code (finding_code hcode _ _ _ _ _)]
    rfl
  have hsafe := hsecure.safe
  refine .deliver hR rfl rfl hgot ?_
  refine .glide hR 13 (finding_code hcode _ _ _ _ _) rfl rfl (fun _ _ => hsafe _ _ htop) hmethod ?_
  refine .task hR rfl rfl (hsafe _ _ htop) (fun h => by cases h) hcall ?_
  obtain ⟨n, hn⟩ := task_unmark s source hlength
  refine .done hR (congrArg Focus.act hn) rfl ?_
  refine .deliver hR rfl rfl (hstripped n) ?_
  refine .next hR rfl rfl (hsafe _ _ htop) hset ?_
  exact follows_found hR hsecure htop hcode htrace h

/-- No function is there that has called the handle. -/
theorem follows_untold (htrace : s.cell trace = .native .debugTraceback)
    (h : Follows L R H 0 m ⟨s, frames, depth, nesting, inHook,
      .deliver [.text "<internal>", .string (tracebackText s (frames.filterMap Frame.level?) 2)]⟩) :
    Follows L R H 0 m ⟨s, .script (finding chunk f id info trace 4 [.value .nil, .value .nil] [] []
      (.results (.exactly 1))) :: frames, depth + 1, nesting, inHook, .deliver [.nil]⟩ := by
  have hgot : (finding chunk f id info trace 4 [.value .nil, .value .nil] [] []
      (.results (.exactly 1))).resume s [.nil] = .next s (finding chunk f id info trace 4
        [.value .nil, .value .nil] [.nil] [] (.results (.exactly 1))) := rfl
  have htest : (finding chunk f id info trace 4 [.value .nil, .value .nil] [.nil] []
      (.results (.exactly 1))).glide s originShape.code 6 = some (finding chunk f id info trace 19
        [.value .nil, .value (.text "<internal>")] [] [] (.results (.exactly 1))) := rfl
  refine .deliver hR rfl rfl hgot ?_
  refine .glide hR 6 (finding_code hcode _ _ _ _ _) rfl rfl (fun _ _ => hsecure.safe _ _ htop) htest ?_
  exact follows_found hR hsecure htop hcode htrace h

omit hsecure in
/-- From its first instruction on the function finds out what has called the method. -/
theorem follows_finding {h : HandlePlaces} {caller : Option Level} (hs : Handles h s)
    (hsecure : ∀ s', s.Extends s' → Secure L R H m top nesting inHook s')
    (hcaller : (frames.filterMap Frame.level?)[2]? = caller)
    (hlength : ∀ l, caller = some l → (l.source s).length + 1 < 2 ^ 63)
    (hgoal : Follows L R H 0 m ⟨described s caller, frames, depth, nesting, inHook,
      .deliver [.string (callerText s caller),
        .string (tracebackText (described s caller) (frames.filterMap Frame.level?) 2)]⟩) :
    Follows L R H 0 m ⟨s, .script (finding chunk f id h.info h.trace 0 [.value .nil, .value .nil] [] []
      .nothing) :: frames, depth + 1, nesting, inHook, .script⟩ := by
  let slots : List Local := [.value .nil, .value .nil]
  have hask : (finding chunk f id h.info h.trace 0 slots [] [] .nothing).glide s originShape.code 3 =
      some (finding chunk f id h.info h.trace 3 slots [.text "S", .int 4, .native .debugGetinfo] []
        .nothing) := by
    simp [finding, Activation.glide, originShape, Instr.isPlain, Step.instruction, Activation.push,
      hs.info]
  have hcall : (finding chunk f id h.info h.trace 3 slots [.text "S", .int 4, .native .debugGetinfo] []
      .nothing).step s = .call s (finding chunk f id h.info h.trace 4 slots [] []
        (.results (.exactly 1))) (.native .debugGetinfo) [.int 4, .text "S"] (ofUpvalue "getinfo")
        false := by
    rw [Activation.step_of_code (finding_code hcode _ _ _ _ _)]
    rfl
  have hsecure₀ := hsecure s (.refl s)
  have hsafe₀ := hsecure₀.safe
  refine .glide hR 3 (finding_code hcode _ _ _ _ _) rfl rfl (fun _ _ => hsafe₀ _ _ htop) hask ?_
  refine .task hR rfl rfl (hsafe₀ _ _ htop) (fun h => by cases h) hcall ?_
  obtain ⟨k, hk, huntold, htold⟩ := task_getinfo s
  refine .levels hR (congrArg Focus.act hk) rfl ?_
  cases caller with
  | none =>
    refine .done hR (congrArg Focus.act (huntold _ hcaller)) rfl ?_
    exact follows_untold hR hsecure₀ htop hcode hs.trace hgoal
  | some l =>
    have hmore : s.Extends (s.addTable (sourceTable s l)).1 := .addTable s _
    have hs' := hs.of_extends hmore
    have hsource : (s.addTable (sourceTable s l)).1.index (.table s.tables.size)
        (.string (bytes "source")) = .value (.string (l.source s)) := by
      refine Store.index_field ?_ (by simp)
      rw [Store.rawGet, Store.table_addTable, if_pos rfl, get_sourceTable]
    refine .done hR (congrArg Focus.act (htold _ l hcaller)) rfl ?_
    exact follows_told hR (hsecure _ hmore) htop hcode hs'.trace hsource (Store.index_string hs'.gsub _)
      (hlength l rfl) hgoal

end Origin

section Handle

variable {w : Surroundings} {L : Context → Prop} {R : Context → Machine → Prop}
  {H : Option (Value × Nat)} {m : Machine} {s : Store} {frames : List Frame} {depth nesting top : Nat}
  {inHook : Bool} {chunk : Chunk} {f : Function} {h : HandlePlaces} {args : List Value}

/-- A function of the script on top calls another one, or there is no room for it. -/
theorem Follows.enterOrFull (hR : Backward w L R) {a a' : Activation} {s' : Store}
    (hsafe : Safe L R H m ⟨s, .script a :: frames, depth, nesting, inHook, .script⟩)
    (hfull : Secure L R H m top nesting inHook s') (htop : depth ≤ top) {origin : Option Origin} {id : Nat}
    (hstep : a.step s = .call s' a' (.closure id) args origin false)
    (hp : Follows L R H 0 m
      ((⟨s', .script a' :: frames, depth, nesting, inHook, .script⟩ : Spot).entered id args origin false)) :
    Follows L R H 0 m ⟨s, .script a :: frames, depth, nesting, inHook, .script⟩ := by
  have hallows : ∀ p : Spot, p.Allows false := fun _ h => by cases h
  by_cases hdepth : depth < Machine.depthLimit
  · exact .enter hR rfl rfl hsafe (hallows _) hdepth hstep hp
  · have hlimit : Machine.depthLimit ≤ depth := Nat.not_lt.mp hdepth
    obtain ⟨v, hv⟩ := Spot.call_closure_of_full
      (p := ⟨s', .script a' :: frames, depth, nesting, inHook, .script⟩) (m := m) (hallows _) hlimit id args
      origin
    exact .call hR rfl rfl hsafe hstep hv (hfull.full _ v _ htop hlimit)

/-- The function that asks the host for a capability, at a place, with what it has got for an answer. -/
def wrapping (chunk : Chunk) (f : Function) (id : Nat) (upvalues : List Nat) (origin : Option Origin)
    (args : List Value) (pc : Nat) (slots : List Local) (stack spread : List Value) (await : Await) :
    Activation :=
  { closure := id, chunk, function := f, upvalues := upvalues.toArray, pc, slots := slots.toArray, stack
    spread, varargs := args, await, origin, isTail := false, extraArguments := 0, isNested := false }

/-- Its variables as long as it has no answer. -/
def unanswered : List Local := [.value .nil, .value .nil, .value .nil]

/-- The function of the host, when it has been asked. -/
def hostCall (name : String) : NativeCall :=
  { function := .host (.function name), origin := ofUpvalue "host_fn", extraArguments := 0
    isNested := false }

/-- The function that sets the symbol of a handle, at a place. -/
def assigning (chunk : Chunk) (f : Function) (h : HandlePlaces) (pc : Nat) (slots : List Local)
    (stack : List Value) (await : Await) : Activation :=
  { closure := h.setFromId, chunk, function := f, upvalues := #[h.origin, h.setter], pc
    slots := slots.toArray, stack, varargs := [], await, origin := ofUpvalue "set_from_handle"
    isTail := false, extraArguments := 0, isNested := false }

theorem wrapping_code (hcode : f.ops.toList.map (·.instr) = wrapperShape.code) (id : Nat)
    (upvalues : List Nat) (origin : Option Origin) (pc : Nat) (slots : List Local)
    (stack spread : List Value) (await : Await) :
    (wrapping chunk f id upvalues origin args pc slots stack spread await).code = wrapperShape.code := hcode

theorem assigning_code (hcode : f.ops.toList.map (·.instr) = setFromHandleShape.code) (pc : Nat)
    (slots : List Local) (stack : List Value) (await : Await) :
    (assigning chunk f h pc slots stack await).code = setFromHandleShape.code := hcode

/-- A method of a handle, at a place. -/
def acting (chunk : Chunk) (f : Function) (id : Nat) (h : HandlePlaces) (origin : Option Origin)
    (isTail : Bool) (extraArguments : Nat) (isNested : Bool) (pc : Nat) (slots : List Local)
    (stack : List Value) (await : Await) : Activation :=
  { closure := id, chunk, function := f, upvalues := #[h.setFrom], pc, slots := slots.toArray, stack
    varargs := [], await, origin, isTail, extraArguments, isNested }

variable (hR : Backward w L R)

include hR

/-- The host is asked to do something with what the function has been given. -/
theorem follows_wrapping (hcode : f.ops.toList.map (·.instr) = wrapperShape.code)
    (hsecure : Secure L R H m top nesting inHook s) (htop : depth ≤ top) {id host env level : Nat}
    {name : String} (hhost : s.cell host = .host (.function name)) {origin : Option Origin}
    (hgoal : Follows L R H 0 m ⟨s, .native (hostCall name) :: .script (wrapping chunk f id
      [host, env, level] origin args 3 unanswered [] [] (.results (.exactly 3))) :: frames, depth + 1,
      nesting, inHook, .asking name args⟩) :
    Follows L R H 0 m ⟨s, .script (wrapping chunk f id [host, env, level] origin args 0 unanswered [] []
      .nothing) :: frames, depth, nesting, inHook, .script⟩ := by
  let act := wrapping chunk f id [host, env, level] origin args
  have hask : (act 0 unanswered [] [] .nothing).glide s wrapperShape.code 2 =
      some (act 2 unanswered [.host (.function name)] args .nothing) := by
    simp [act, wrapping, Activation.glide, wrapperShape, Instr.isPlain, Step.instruction, Activation.push,
      hhost, Step.pushAll]
  have hcall : (act 2 unanswered [.host (.function name)] args .nothing).step s =
      .call s (act 3 unanswered [] [] (.results (.exactly 3))) (.host (.function name)) args
        (ofUpvalue "host_fn") false := by
    rw [Activation.step_of_code (wrapping_code hcode _ _ _ _ _ _ _ _)]
    rfl
  refine .glide hR 2 (wrapping_code hcode _ _ _ _ _ _ _ _) rfl rfl (fun _ _ => hsecure.safe _ _ htop)
    hask ?_
  exact .ask hR rfl rfl (hsecure.safe _ _ htop) (fun h => by cases h) hcall hgoal

/-- The function finds out who has called the method, and asks for the symbol of the handle to be set. -/
theorem follows_assigning (hcode : f.ops.toList.map (·.instr) = setFromHandleShape.code) (hs : Handles h s)
    (hsecure : ∀ s', s.Extends s' → Secure L R H m top nesting inHook s') (htop : depth + 1 ≤ top)
    {self value name : Value} (hname : s.index self (.string (bytes "_name")) = .value name)
    (hnil : name ≠ .nil) {caller : Option Level} (hcaller : (frames.filterMap Frame.level?)[1]? = caller)
    (hlength : ∀ l, caller = some l → (l.source s).length + 1 < 2 ^ 63)
    (hgoal : ∀ (chunk' : Chunk) (f' : Function) (slots : List Local),
      let args := [name, value, .string (callerText s caller),
        .string (tracebackText (described s caller) (frames.filterMap Frame.level?) 1)]
      f'.ops.toList.map (·.instr) = wrapperShape.code → slots.length = 6 →
      Follows L R H 0 m ⟨described s caller, .native (hostCall Capability.setAny.guestName) ::
        .script (wrapping chunk' f' h.setterId [h.host, h.env, h.level] (ofUpvalue "handle_set") args 3
          unanswered [] [] (.results (.exactly 3))) ::
        .script (assigning chunk f h 11 slots [] (.results (.exactly 2))) :: frames, depth + 2, nesting,
        inHook, .asking Capability.setAny.guestName args⟩) :
    Follows L R H 0 m ⟨s, .script (assigning chunk f h 0 [.value self, .value value, .value .nil,
      .value .nil, .value .nil, .value .nil] [] .nothing) :: frames, depth, nesting, inHook, .script⟩ := by
  let s' := described s caller
  let source : Value := .string (callerText s caller)
  let trace : Value := .string (tracebackText s' (frames.filterMap Frame.level?) 1)
  let slots : List Local :=
    [.value self, .value value, .value .nil, .value .nil, .value .nil, .value .nil]
  let filled : List Local :=
    [.value self, .value value, .value source, .value trace, .value .nil, .value .nil]
  have hfind : (assigning chunk f h 0 slots [] .nothing).glide s setFromHandleShape.code 1 =
      some (assigning chunk f h 1 slots [.closure h.originId] .nothing) := by
    simp [assigning, Activation.glide, setFromHandleShape, Instr.isPlain, Step.instruction,
      Activation.push, hs.origin]
  have hfinding : (assigning chunk f h 1 slots [.closure h.originId] .nothing).step s =
      .call s (assigning chunk f h 2 slots [] (.results (.exactly 2))) (.closure h.originId) []
        (ofUpvalue "origin") false := by
    rw [Activation.step_of_code (assigning_code hcode _ _ _ _)]
    rfl
  have hdepth : depth ≤ top := Nat.le_of_succ_le htop
  have hsecure₀ := hsecure s (.refl s)
  refine .glide hR 1 (assigning_code hcode _ _ _ _) rfl rfl (fun _ _ => hsecure₀.safe _ _ hdepth) hfind ?_
  refine .enterOrFull hR (hsecure₀.safe _ _ hdepth) hsecure₀ hdepth hfinding ?_
  obtain ⟨hcode₁, henter₁⟩ := Activation.enter_eq hs.originFunction
    (show (1, originShape) ∈ shapes by simp [shapes]) [] (ofUpvalue "origin") false 0 false
  simp only [Spot.entered, Spot.push, henter₁]
  refine follows_finding hR htop hcode₁ hs hsecure hcaller hlength ?_
  -- The function goes on in a store that may have one table more.
  have hmore : s.Extends s' := extends_described s caller
  have hs' := hs.of_extends hmore
  have hname' := hmore.index hname hnil
  have hgot : (assigning chunk f h 2 slots [] (.results (.exactly 2))).resume s' [source, trace] =
      .next s' (assigning chunk f h 2 slots [trace, source] (.results (.exactly 2))) := rfl
  have hset : (assigning chunk f h 2 slots [trace, source] (.results (.exactly 2))).glide s'
      setFromHandleShape.code 8 = some (assigning chunk f h 10 filled
        [trace, source, value, name, .closure h.setterId] (.results (.exactly 2))) := by
    simp [assigning, Activation.glide, setFromHandleShape, Instr.isPlain, Step.instruction,
      Activation.push, Activation.getSlot, Activation.newSlot, Step.ofOutcome, hs'.setter, hname',
      slots, filled]
  have hassign : (assigning chunk f h 10 filled [trace, source, value, name, .closure h.setterId]
      (.results (.exactly 2))).step s' =
      .call s' (assigning chunk f h 11 filled [] (.results (.exactly 2))) (.closure h.setterId)
        [name, value, source, trace] (ofUpvalue "handle_set") false := by
    rw [Activation.step_of_code (assigning_code hcode _ _ _ _)]
    rfl
  have hsecure' := hsecure s' hmore
  refine .deliver hR rfl rfl hgot ?_
  refine .glide hR 8 (assigning_code hcode _ _ _ _) rfl rfl (fun _ _ => hsecure'.safe _ _ hdepth) hset ?_
  refine .enterOrFull hR (hsecure'.safe _ _ hdepth) hsecure' hdepth hassign ?_
  obtain ⟨hcode₂, henter₂⟩ := Activation.enter_eq hs'.setterFunction
    (show (11, wrapperShape) ∈ shapes by simp [shapes]) [name, value, source, trace]
    (ofUpvalue "handle_set") false 0 false
  simp only [Spot.entered, Spot.push, henter₂]
  exact follows_wrapping hR hcode₂ hsecure' htop hs'.host (hgoal _ _ filled hcode₂ rfl)

/-- A method of a handle that has been called asks for its symbol to be set, for the function that has
called it. -/
theorem follows_method (hs : Handles h s)
    (hsecure : ∀ s', s.Extends s' → Secure L R H m top nesting inHook s') (htop : depth + 2 ≤ top)
    {id index : Nat} (hmethod : s.HasFunction id index [h.setFrom])
    (hindex : (index, setterShape) ∈ shapes)
    {self name : Value} (hname : s.index self (.string (bytes "_name")) = .value name)
    (hnil : name ≠ .nil) {caller : Option Level} (hcaller : (frames.filterMap Frame.level?).head? = caller)
    (hlength : ∀ l, caller = some l → (l.source s).length + 1 < 2 ^ 63)
    {origin : Option Origin} {isTail isNested : Bool} {extraArguments : Nat}
    (hgoal : ∀ (chunk₁ chunk₂ chunk₃ : Chunk) (f₁ f₂ f₃ : Function) (slots₁ slots₂ : List Local),
      let args := [name, args.headD .nil, .string (callerText s caller),
        .string (tracebackText (described s caller) (frames.filterMap Frame.level?) 0)]
      f₁.ops.toList.map (·.instr) = wrapperShape.code →
      f₂.ops.toList.map (·.instr) = setFromHandleShape.code →
      f₃.ops.toList.map (·.instr) = setterShape.code → slots₁.length = 6 → slots₂.length = 4 →
      Follows L R H 0 m ⟨described s caller, .native (hostCall Capability.setAny.guestName) ::
        .script (wrapping chunk₁ f₁ h.setterId [h.host, h.env, h.level] (ofUpvalue "handle_set") args 3
          unanswered [] [] (.results (.exactly 3))) ::
        .script (assigning chunk₂ f₂ h 11 slots₁ [] (.results (.exactly 2))) ::
        .script (acting chunk₃ f₃ id h origin isTail extraArguments isNested 4 slots₂ []
          (.results (.exactly 2))) :: frames, depth + 3, nesting, inHook,
        .asking Capability.setAny.guestName args⟩) :
    Follows L R H 0 m ⟨s, .script (Activation.enter s id (self :: args) origin isTail extraArguments
      isNested) :: frames, depth, nesting, inHook, .script⟩ := by
  obtain ⟨hcode, henter⟩ := Activation.enter_eq hmethod hindex (self :: args) origin isTail
    extraArguments isNested
  let slots : List Local := [.value self, .value (args.headD .nil), .value .nil, .value .nil]
  have hslots : Activation.fillSlots (Array.replicate 4 (.value .nil)) 0 2 (self :: args) =
      slots.toArray := by
    cases args <;> rfl
  let method := acting (s.closure id).chunk (s.closure id).function id h origin isTail extraArguments
    isNested
  have hmethodCode : ∀ pc slots stack await, (method pc slots stack await).code = setterShape.code :=
    fun _ _ _ _ => hcode
  have hstart : Activation.enter s id (self :: args) origin isTail extraArguments isNested =
      method 0 slots [] .nothing := by
    rw [henter]
    simp only [setterShape, hslots, method, acting]
    rfl
  have hset : (method 0 slots [] .nothing).glide s setterShape.code 3 =
      some (method 3 slots [args.headD .nil, self, .closure h.setFromId] .nothing) := by
    simp [method, acting, Activation.glide, setterShape, Instr.isPlain, Step.instruction, Activation.push,
      Activation.getSlot, hs.setFrom, slots]
  have hcall : (method 3 slots [args.headD .nil, self, .closure h.setFromId] .nothing).step s =
      .call s (method 4 slots [] (.results (.exactly 2))) (.closure h.setFromId) [self, args.headD .nil]
        (ofUpvalue "set_from_handle") false := by
    rw [Activation.step_of_code (hmethodCode _ _ _ _)]
    rfl
  have hdepth : depth ≤ top := by omega
  have hsecure₀ := hsecure s (.refl s)
  have hlevel : ((Frame.script (method 4 slots [] (.results (.exactly 2))) :: frames).filterMap
      Frame.level?)[1]? = caller := by
    rw [← hcaller, List.head?_eq_getElem?]
    rfl
  rw [hstart]
  refine .glide hR 3 (hmethodCode _ _ _ _) rfl rfl (fun _ _ => hsecure₀.safe _ _ hdepth) hset ?_
  refine .enterOrFull hR (hsecure₀.safe _ _ hdepth) hsecure₀ hdepth hcall ?_
  obtain ⟨hcode₁, henter₁⟩ := Activation.enter_eq hs.setFromFunction
    (show (2, setFromHandleShape) ∈ shapes by simp [shapes]) [self, args.headD .nil]
    (ofUpvalue "set_from_handle") false 0 false
  simp only [Spot.entered, Spot.push, henter₁]
  exact follows_assigning hR hcode₁ hs hsecure htop hname hnil hlevel hlength
    fun chunk' f' slots' hcode' hslots' =>
      hgoal chunk' _ _ f' _ _ slots' slots hcode' hcode₁ hcode hslots' rfl

end Handle

end KernelConfig.Context
