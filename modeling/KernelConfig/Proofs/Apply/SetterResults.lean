import KernelConfig.Proofs.Apply.Attribution
import KernelConfig.Proofs.Apply.HandleCalls

/-!
Results of setters: the way back of the host's answer through the functions of the prelude.
-/

set_option autoImplicit false

namespace KernelConfig

open Script Script.Prelude Script.Library Apply

/-- Where a script is when a function of the host has replied. -/
def Script.Spot.replied (p : Spot) (call : NativeCall) (rest : List Frame) :
    Except Mishap (List Datum) → Spot
  | .ok data => { p.drop (.native call) rest with focus := .deliver (data.map Value.ofDatum) }
  | .error f => { p with focus := .raise (.host (.failure f)) }

namespace Context

/-- How a call ends for the function that has made it. -/
inductive Ending where
  | returned (results : List Value)
  | raised (v : Value)

/-- How the call of a setter ends, by what its use amounts to; the message of a fault is preceded by a
place. -/
def Ending.ofUse (place : Bytes) : Except Failure (List Datum) → Ending
  | .ok results => .returned (adjust 2 (results.map Value.ofDatum))
  | .error (.fault f) => .raised (.string (place ++ bytes f.message))
  | .error (.mishap m) => .raised (.host (.failure m))

/-- A call that was made above some frames has come to its end. -/
def Ending.At (below : List Frame) (m : Machine) : Ending → Prop
  | .returned vs => m.frames = below ∧ m.focus = .deliver vs
  | .raised v => (∃ inner, m.frames = inner ++ below) ∧ m.focus = .raise v

/-- A call is served as it is to be once it has come to its end, above some frames. -/
def Followed (L : Context → Prop) (R : Context → Machine → Prop) (H : Option (Value × Nat)) (m : Machine)
    (s : Store) (top nesting : Nat) (inHook : Bool) (below : List Frame) : Ending → Prop
  | .returned vs => ∀ depth ≤ top, Follows L R H 0 m ⟨s, below, depth, nesting, inHook, .deliver vs⟩
  | .raised v => ∀ inner depth, Follows L R H 0 m ⟨s, inner ++ below, depth, nesting, inHook, .raise v⟩

theorem Followed.above {L : Context → Prop} {R : Context → Machine → Prop} {H : Option (Value × Nat)}
    {m : Machine} {s : Store} {top nesting : Nat} {inHook : Bool} {below : List Frame} {v : Value}
    (h : Followed L R H m s top nesting inHook below (.raised v)) (frame : Frame) :
    Followed L R H m s top nesting inHook (frame :: below) (.raised v) := by
  intro inner depth
  rw [List.append_cons]
  exact h (inner ++ [frame]) depth

section Replied

variable {w : Surroundings} {L : Context → Prop} {R : Context → Machine → Prop} {m : Machine} {p : Spot}
  {call : NativeCall} {rest : List Frame} {name : String} {args : List Value} {c : Context}
  {hook : Option Hook} {ticks : Nat} {environment : List (String × String)}

/-- The host is asked, and the script goes on with its reply. -/
theorem follows_reply (hR : Backward w L R) (hc : L c) (hf : p.focus = .asking name args)
    (hframes : p.frames = .native call :: rest)
    (h : ∀ reply c', respond w { c with shared := { c.shared with ticks } }
        ((p.on m).clocked hook ticks environment) name args = (reply, c') →
      R c' (((p.replied call rest reply).on m).clocked hook c'.shared.ticks environment)) :
    R c ((p.on m).clocked hook ticks environment) := by
  refine hR.asked hc hf ?_
  have hframes' : ((p.on m).clocked hook ticks environment).frames = .native call :: rest := hframes
  have hticks : ((p.on m).clocked hook ticks environment).ticks = ticks := rfl
  unfold answer
  rw [hticks]
  rcases hr : respond w { c with shared := { c.shared with ticks } }
    ((p.on m).clocked hook ticks environment) name args with ⟨_ | data, c'⟩
  · exact h _ _ hr
  · have hnext := h _ _ hr
    simp only [Machine.answer, hframes']
    exact hnext

end Replied

/-! ### Through the functions of the prelude -/

/-- Two results are kept in variables and given back. -/
def passingOn (i : Nat) : List Instr :=
  [.newSlot (i + 1), .newSlot i, .getSlot i, .getSlot (i + 1), .ret 2 false]

theorem get?_of_passingOn {code : List Instr} {pc i k : Nat} {instr : Instr}
    (hplace : passingOn i <+: code.drop pc) (hk : (passingOn i)[k]? = some instr) :
    code[pc + k]? = some instr := by
  obtain ⟨rest, hrest⟩ := hplace
  rw [← List.getElem?_drop, ← hrest, List.getElem?_append_left (List.getElem?_eq_some_iff.mp hk).1, hk]

section Results

variable {w : Surroundings} {L : Context → Prop} {R : Context → Machine → Prop}
  {H : Option (Value × Nat)} {m : Machine} {s : Store} {frames : List Frame} {depth nesting top : Nat}
  {inHook : Bool} {chunk : Chunk} {f : Function} {args : List Value}

/-- What a function needs that raises errors some levels up: the globals, and how many. -/
structure Raises (s : Store) (env level : Nat) (up : Int64) : Prop where
  env : ∃ globals, s.cell env = .table globals ∧
    s.index (.table globals) (.string (bytes "error")) = .value (.native .error)
  level : s.cell level = .int up

theorem Raises.of_extends {s s' : Store} {env level : Nat} {up : Int64} (h : Raises s env level up)
    (he : s.Extends s') : Raises s' env level up := by
  obtain ⟨globals, henv, herror⟩ := h.env
  exact ⟨⟨globals, he.cell_eq henv (by simp), he.index herror (by simp)⟩, he.cell_eq h.level (by simp)⟩

theorem adjust_two (vs : List Value) : ∃ x y, adjust 2 vs = [x, y] := by
  match vs with
  | [] | [_] | _ :: _ :: _ => exact ⟨_, _, rfl⟩

variable (hR : Backward w L R) (hsecure : Secure L R H m top nesting inHook s) (htop : depth ≤ top)

include hR hsecure htop

/-- A function that has asked the host for a capability is told that it has succeeded: it gives two
results. -/
theorem follows_accepted (hcode : f.ops.toList.map (·.instr) = wrapperShape.code) {id : Nat}
    {upvalues : List Nat} {origin : Option Origin} {vs : List Value}
    (hgoal : Follows L R H 0 m ⟨s, frames, depth - 1, nesting, inHook, .deliver (adjust 2 vs)⟩) :
    Follows L R H 0 m ⟨s, .script (wrapping chunk f id upvalues origin args 3 unanswered [] []
      (.results (.exactly 3))) :: frames, depth, nesting, inHook, .deliver (.text "ok" :: vs)⟩ := by
  obtain ⟨x, y, hpair⟩ := adjust_two vs
  let act := wrapping chunk f id upvalues origin args
  let got : List Local := [.value (.text "ok"), .value x, .value y]
  have hacode : ∀ pc slots stack await, (act pc slots stack [] await).code = wrapperShape.code :=
    fun _ _ _ _ => hcode
  have hresume : (act 3 unanswered [] [] (.results (.exactly 3))).resume s (.text "ok" :: vs) =
      .next s (act 3 unanswered [y, x, .text "ok"] [] (.results (.exactly 3))) := by
    have htriple : adjust 3 (.text "ok" :: vs) = [.text "ok", x, y] := congrArg _ hpair
    simp only [Activation.resume, act, wrapping, Step.pushAll, htriple]
    rfl
  -- The status is compared, and the branch that raises an error is jumped over.
  have htest : (act 3 unanswered [y, x, .text "ok"] [] (.results (.exactly 3))).glide s
      wrapperShape.code 9 = some (act 17 got [y, x] [] (.results (.exactly 3))) := rfl
  have hret : (act 17 got [y, x] [] (.results (.exactly 3))).step s =
      .ret s (act 18 got [] [] (.results (.exactly 3))) [x, y] := by
    rw [Activation.step_of_code (hacode _ _ _ _)]
    rfl
  rw [hpair] at hgoal
  refine .deliver hR rfl rfl hresume ?_
  refine .glide hR 9 (hacode _ _ _ _) rfl rfl (fun _ _ => hsecure.safe _ _ htop) htest ?_
  exact .ret hR rfl rfl (hsecure.safe _ _ htop) hret hgoal

/-- It is told of a fault: it raises an error with the place of a function that many levels up. -/
theorem follows_refused (hcode : f.ops.toList.map (·.instr) = wrapperShape.code) {id host env level : Nat}
    {origin : Option Origin} {up : Int64} {above : Nat} {message : Bytes} {caller : Option Level}
    (hraises : Raises s env level up) (hpositive : 0 < up) (habove : up.toInt.toNat = above + 2)
    (hcaller : (frames.filterMap Frame.level?)[above]? = caller)
    (hgoal : ∀ inner depth', Follows L R H 0 m ⟨s, inner ++ frames, depth', nesting, inHook,
      .raise (.string (placeText s caller ++ message))⟩) :
    Follows L R H 0 m ⟨s, .script (wrapping chunk f id [host, env, level] origin args 3 unanswered [] []
      (.results (.exactly 3))) :: frames, depth, nesting, inHook,
      .deliver [.text "error", .string message]⟩ := by
  obtain ⟨globals, henv, herror⟩ := hraises.env
  let act := wrapping chunk f id [host, env, level] origin args
  let got : List Local := [.value (.text "error"), .value (.string message), .value .nil]
  have hacode : ∀ pc slots stack await, (act pc slots stack [] await).code = wrapperShape.code :=
    fun _ _ _ _ => hcode
  have hresume : (act 3 unanswered [] [] (.results (.exactly 3))).resume s
      [.text "error", .string message] = .next s (act 3 unanswered
        [.nil, .string message, .text "error"] [] (.results (.exactly 3))) := rfl
  have htest : (act 3 unanswered [.nil, .string message, .text "error"] [] (.results (.exactly 3))).glide s
      wrapperShape.code 7 = some (act 10 got [] [] (.results (.exactly 3))) := rfl
  have hasks : (act 10 got [] [] (.results (.exactly 3))).glide s wrapperShape.code 4 =
      some (act 14 got [.int up, .string message, .native .error] [] (.results (.exactly 3))) := by
    simp [act, wrapping, got, Activation.glide, wrapperShape, getGlobal, Instr.isPlain, Step.instruction,
      Activation.push, Activation.getSlot, Step.ofOutcome, henv, hraises.level, herror]
  have hcall : (act 14 got [.int up, .string message, .native .error] [] (.results (.exactly 3))).step s =
      .call s (act 15 got [] [] (.results (.exactly 0))) (.native .error) [.string message, .int up]
        (ofGlobal "error") false := by
    rw [Activation.step_of_code (hacode _ _ _ _)]
    rfl
  refine .deliver hR rfl rfl hresume ?_
  refine .glide hR 7 (hacode _ _ _ _) rfl rfl (fun _ _ => hsecure.safe _ _ htop) htest ?_
  refine .glide hR 4 (hacode _ _ _ _) rfl rfl (fun _ _ => hsecure.safe _ _ htop) hasks ?_
  refine .task hR rfl rfl (hsecure.safe _ _ htop) (fun h => by cases h) hcall ?_
  obtain ⟨k, hk, hraise⟩ := task_error message hpositive s
  -- The levels that are counted are the call of the raising function, its caller, and those below.
  have hraised : ∀ x y : Frame, x.level?.isSome → y.level?.isSome →
      k s ((x :: y :: frames).filterMap Frame.level?) =
        .raise s (.string (placeText s caller ++ message)) := by
    intro x y hx hy
    obtain ⟨l, hl⟩ := Option.isSome_iff_exists.mp hx
    obtain ⟨l', hl'⟩ := Option.isSome_iff_exists.mp hy
    rw [hraise, List.filterMap_cons_some hl, List.filterMap_cons_some hl', habove, ← hcaller]
    rfl
  refine .levels hR (congrArg Focus.act hk) rfl ?_
  refine .raised hR (congrArg Focus.act (hraised _ _ rfl rfl)) rfl ?_
  exact hgoal [_, _] _

/-- A function that has called another one for two results gives these back. -/
theorem follows_passing {a : Activation} {code : List Instr} {i : Nat} {x y : Value} (hcode : a.code = code)
    (hplace : passingOn i <+: code.drop a.pc)
    (hslots : i + 1 < a.slots.size) (hawait : a.await = .results (.exactly 2)) (hstack : a.stack = [])
    (hclose : a.toClose = []) (hnested : a.isNested = false)
    (hgoal : Follows L R H 0 m ⟨s, frames, depth - 1, nesting, inHook, .deliver [x, y]⟩) :
    Follows L R H 0 m ⟨s, .script a :: frames, depth, nesting, inHook, .deliver [x, y]⟩ := by
  let filled := (a.slots.setIfInBounds (i + 1) (.value y)).setIfInBounds i (.value x)
  let a' : Activation := { a with pc := a.pc + 4, slots := filled, stack := [y, x] }
  have hresume : a.resume s [x, y] = .next s { a with stack := [y, x] } := by
    simp only [Activation.resume, hawait, Step.pushAll, hstack]
    rfl
  have hglide : ({ a with stack := [y, x] } : Activation).glide s code 4 = some a' := by
    have h₀ : code[a.pc]? = _ := get?_of_passingOn (k := 0) hplace rfl
    have h₁ := get?_of_passingOn (k := 1) hplace rfl
    have h₂ := get?_of_passingOn (k := 2) hplace rfl
    have h₃ := get?_of_passingOn (k := 3) hplace rfl
    simp [Activation.glide, h₀, h₁, h₂, h₃, Instr.isPlain, Step.instruction, Activation.push,
      Activation.getSlot, Activation.newSlot, hslots, Nat.lt_of_succ_lt hslots, a', filled]
  have hret : a'.step s = .ret s { a' with pc := a.pc + 5, stack := [] } [x, y] := by
    have h₄ : code[a'.pc]? = some (.ret 2 false) := get?_of_passingOn hplace rfl
    rw [Activation.step_of_instruction (a := a') hcode h₄]
    simp [Step.instruction, a', hclose, Step.takeList, Activation.takeOperands]
  refine .deliver hR rfl rfl hresume ?_
  refine .glide hR 4 (a := { a with stack := [y, x] }) hcode rfl rfl (fun _ _ => hsecure.safe _ _ htop)
    hglide ?_
  refine .ret hR rfl rfl (hsecure.safe _ _ htop) hret ?_
  simpa [Spot.drop, Frame.isNested, a', hnested] using hgoal

omit htop in
theorem Followed.passing {a : Activation} {code : List Instr} {i : Nat} {place : Bytes}
    {r : Except Failure (List Datum)} (hcode : a.code = code)
    (hplace : passingOn i <+: code.drop a.pc)
    (hslots : i + 1 < a.slots.size) (hawait : a.await = .results (.exactly 2)) (hstack : a.stack = [])
    (hclose : a.toClose = []) (hnested : a.isNested = false)
    (h : Followed L R H m s top nesting inHook frames (.ofUse place r)) :
    Followed L R H m s top nesting inHook (.script a :: frames) (.ofUse place r) := by
  rcases r with (fault | mishap) | results
  · exact Followed.above h _
  · exact Followed.above h _
  · intro depth htop
    obtain ⟨x, y, hpair⟩ := adjust_two (results.map Value.ofDatum)
    simp only [Ending.ofUse, Followed, hpair] at h ⊢
    exact follows_passing hR hsecure htop hcode hplace hslots hawait hstack hclose hnested
      (h _ (Nat.le_trans (Nat.sub_le _ _) htop))

/-- The reply of the host leads to the end of a call that was made above some frames. -/
theorem follows_replied (hcode : f.ops.toList.map (·.instr) = wrapperShape.code) {id host env level : Nat}
    {name : String} {origin : Option Origin} {up : Int64} {above : Nat} {r : Except Failure (List Datum)}
    {caller : Option Level} (hraises : Raises s env level up) (hpositive : 0 < up)
    (habove : up.toInt.toNat = above + 2)
    (hcaller : (frames.filterMap Frame.level?)[above]? = caller)
    (h : Followed L R H m s top nesting inHook frames (.ofUse (placeText s caller) r)) :
    let asked := .script (wrapping chunk f id [host, env, level] origin args 3 unanswered [] []
      (.results (.exactly 3))) :: frames
    Follows L R H 0 m ((⟨s, .native (hostCall name) :: asked, depth + 1, nesting, inHook,
      .asking name args⟩ : Spot).replied (hostCall name) asked (replyTo r)) := by
  rcases r with (fault | mishap) | results
  · exact follows_refused hR hsecure htop hcode hraises hpositive habove hcaller h
  · exact h [_, _] _
  · exact follows_accepted hR hsecure htop hcode (h _ (Nat.le_trans (Nat.sub_le _ _) htop))

end Results

/-! ### Calls of setters -/

/-- A call comes to a place of some kind. -/
def Arrives (w : Surroundings) (G : Context → Machine → Prop) (c : Context) (m : Machine) : Prop :=
  ∃ c' m', Steps w Always c m c' m' ∧ G c' m'

theorem backward_arrives (w : Surroundings) (L : Context → Prop) (G : Context → Machine → Prop) :
    Backward w L (Arrives w G) where
  ticked := fun _ hbusy ⟨c', m', hs, hg⟩ => ⟨c', m', .next trivial (.ticked hbusy) hs, hg⟩
  asked := fun _ hf ⟨c', m', hs, hg⟩ => ⟨c', m', .next trivial (.asked hf) hs, hg⟩

/-- The hook of the deadline is told that the time is over. -/
def Expired (c : Context) (m : Machine) : Prop :=
  c.timedOut = true ∧ m.inHook = true ∧ ∃ message, m.focus = .deliver [.text "error", .text message]

/-- A call above some frames has come to its end, and left a table but for where assignments come from; or
the time is over. -/
def EndsWith (e : Ending) (t : SymbolTable) (below : List Frame) (c : Context) (m : Machine) : Prop :=
  Expired c m ∨ e.At below m ∧ c.shared.table.unattributed = t.unattributed

theorem endsWith_congr {e : Ending} {t t' : SymbolTable} {below : List Frame}
    (h : t.unattributed = t'.unattributed) : EndsWith e t below = EndsWith e t' below := by
  funext c m
  simp only [EndsWith, h]

theorem Expired.arrives {w : Surroundings} {e : Ending} {t : SymbolTable} {below : List Frame} {c : Context}
    {m : Machine} (h : Expired c m) : Arrives w (EndsWith e t below) c m :=
  ⟨c, m, .refl _ _, .inl h⟩

theorem followed_endsWith {w : Surroundings} {L : Context → Prop} {H : Option (Value × Nat)} {m : Machine}
    {s : Store} {top nesting : Nat} {inHook : Bool} {below : List Frame} {t : SymbolTable}
    (hL : ∀ c, L c → c.shared.table.unattributed = t.unattributed) (e : Ending) :
    Followed L (Arrives w (EndsWith e t below)) H m s top nesting inHook below e := by
  have hend : ∀ c m, L c → e.At below m → Arrives w (EndsWith e t below) c m :=
    fun c m hc hat => ⟨c, m, .refl _ _, .inr ⟨hat, hL c hc⟩⟩
  cases e with
  | returned vs => exact fun depth _ c _ _ _ hc _ => hend c _ hc ⟨rfl, rfl⟩
  | raised v => exact fun inner depth c _ _ _ hc _ => hend c _ hc ⟨⟨inner, rfl⟩, rfl⟩

/-- What it amounts to that the host is asked to set a symbol to a value, and is told where that is asked
for. -/
def settled (w : Surroundings) (c : Context) (m : Machine) (x : String) (v : Value) (origins : List Bytes) :
    Except Failure (List Datum) × SymbolTable :=
  match m.data (.text x :: v :: origins.map .string) with
  | .error f => (.error (.mishap f), c.shared.table)
  | .ok data =>
    let (r, s) := use w c.caller .setAny data c.shared
    (r, s.table)

/-- So a call ends, with a place in front of the message of a fault. -/
def Sets (w : Surroundings) (c : Context) (m : Machine) (x : String) (v : Value) (origins : List Bytes)
    (below : List Frame) (place : Bytes) : Context → Machine → Prop :=
  EndsWith (.ofUse place (settled w c m x v origins).1) (settled w c m x v origins).2 below

section Setting

variable {w : Surroundings} {c : Context} {m : Machine} {x : String} {v : Value} {origins : List Bytes}

theorem datum_clocked (m : Machine) (p : Spot) (hook : Option Hook) (ticks : Nat)
    (environment : List (String × String)) (v : Value) :
    ((p.on m).clocked hook ticks environment).datum v = m.datum v := by
  have hstate : ∀ id, (((p.on m).clocked hook ticks environment).thread id).state = (m.thread id).state := by
    intro id
    simp only [Machine.thread, Machine.clocked, Spot.on, Array.getD_eq_getD_getElem?, Array.getElem?_modify]
    split
    · cases m.threads[id]? <;> rfl
    · rfl
  have hhandle : ((p.on m).clocked hook ticks environment).handle = m.handle := by
    funext v
    unfold Machine.handle
    cases v <;> simp only [hstate]
  unfold Machine.datum
  rw [hhandle]

theorem data_clocked (m : Machine) (p : Spot) (hook : Option Hook) (ticks : Nat)
    (environment : List (String × String)) (vs : List Value) :
    ((p.on m).clocked hook ticks environment).data vs = m.data vs := by
  induction vs with
  | nil => rfl
  | cons v vs ih => rw [data_cons, data_cons, datum_clocked, ih]

theorem respond_settled {c' : Context} (hcaller : c'.caller = c.caller)
    (htable : c'.shared.table = c.shared.table) {m' : Machine} (hsame : ∀ vs, m'.data vs = m.data vs)
    (hcount : origins.length ≤ 2) :
    let r := respond w c' m' Capability.setAny.guestName (.text x :: v :: origins.map .string)
    r.1 = replyTo (settled w c m x v origins).1 ∧
      r.2.shared.table.unattributed = (settled w c m x v origins).2.unattributed := by
  have hdata := hsame (.text x :: v :: origins.map .string)
  unfold settled
  cases hall : m.data (.text x :: v :: origins.map .string) with
  | error f =>
    rw [hall] at hdata
    rw [respond_error hdata]
    exact ⟨rfl, congrArg SymbolTable.unattributed htable⟩
  | ok data =>
    rw [hall] at hdata
    obtain ⟨rest, rfl, hrest⟩ := exists_of_data_text hall
    obtain ⟨d, ds, rfl, -, hds⟩ := exists_of_data_cons hrest
    have hlength : ds.length ≤ 2 := by
      rw [length_data hds, List.length_map]
      exact hcount
    have hsets : Capability.setAny.sets = true := rfl
    obtain ⟨hresult, hafter⟩ := use_unattributed (w := w) (c := c.caller) hsets htable
      (.text x) d hlength
    obtain ⟨hresult', hafter'⟩ := use_unattributed (w := w) (c := c.caller) (s := c.shared) hsets
      rfl (.text x) d hlength
    rw [respond_eq hdata, useCapability_eq, hcaller]
    exact ⟨congrArg replyTo (hresult.trans hresult'.symm), hafter.trans hafter'.symm⟩

theorem readable_of_data {texts : List Bytes} {data : List Datum}
    (h : m.data (texts.map .string) = .ok data) : ∀ text ∈ texts, ∃ s, Text.decodeUtf8 text = .ok s := by
  induction texts generalizing data with
  | nil => simp
  | cons text rest ih =>
    obtain ⟨d, ds, rfl, hd, hds⟩ := exists_of_data_cons h
    refine List.forall_mem_cons.mpr ⟨?_, ih hds⟩
    cases hs : Text.decodeUtf8 text with
    | error f =>
      rw [Machine.datum, hs] at hd
      cases hd
    | ok s => exact ⟨s, rfl⟩

theorem exists_data_of_readable (m : Machine) {texts : List Bytes}
    (h : ∀ text ∈ texts, ∃ s, Text.decodeUtf8 text = .ok s) :
    ∃ data, m.data (texts.map .string) = .ok data := by
  induction texts with
  | nil => exact ⟨[], rfl⟩
  | cons text rest ih =>
    rw [List.forall_mem_cons] at h
    obtain ⟨⟨s, hs⟩, hrest⟩ := h
    obtain ⟨data, hdata⟩ := ih hrest
    have hdatum : m.datum (.string text) = .ok (.text s) := by rw [Machine.datum, hs]
    exact ⟨.text s :: data, by rw [List.map_cons, data_cons, hdatum, hdata]; rfl⟩

/-- Where a symbol is set does not matter, if it can be read. -/
theorem settled_of_readable (h : ∀ text ∈ origins, ∃ s, Text.decodeUtf8 text = .ok s)
    (hcount : origins.length ≤ 2) :
    (settled w c m x v origins).1 = (settled w c m x v []).1 ∧
      (settled w c m x v origins).2.unattributed = (settled w c m x v []).2.unattributed := by
  obtain ⟨ds, hds⟩ := exists_data_of_readable m h
  have hall : ∀ rest data, m.data rest = .ok data →
      m.data (.text x :: v :: rest) = (m.datum v).bind fun d => .ok (.text x :: d :: data) := by
    intro rest data hrest
    rw [data_cons, Value.text, datum_string, Except.bind, data_cons, hrest]
    cases m.datum v <;> rfl
  unfold settled
  rw [hall _ _ hds, List.map_nil, hall [] [] rfl]
  cases m.datum v with
  | error f => exact ⟨rfl, rfl⟩
  | ok d =>
    have hlength : ds.length ≤ 2 := by
      rw [length_data hds, List.length_map]
      exact hcount
    exact use_unattributed rfl rfl (.text x) d hlength

/-- If it cannot be read, nothing is set. -/
theorem settled_of_unreadable (h : ¬ ∀ text ∈ origins, ∃ s, Text.decodeUtf8 text = .ok s) :
    ∃ f, settled w c m x v origins = (.error (.mishap f), c.shared.table) := by
  unfold settled
  cases hall : m.data (.text x :: v :: origins.map .string) with
  | error f => exact ⟨f, rfl⟩
  | ok data =>
    obtain ⟨rest, -, hrest⟩ := exists_of_data_text hall
    obtain ⟨-, ds, -, -, hds⟩ := exists_of_data_cons hrest
    exact absurd (readable_of_data hds) h

/-- The host is asked to set the symbol; its reply leads to the end of the call if it is followed there. -/
theorem follows_setting {H : Option (Value × Nat)} {p : Spot} {call : NativeCall} {rest below : List Frame}
    {place : Bytes}
    (hf : p.focus = .asking Capability.setAny.guestName (.text x :: v :: origins.map .string))
    (hframes : p.frames = .native call :: rest) (hcount : origins.length ≤ 2)
    (hback : ∀ L, (∀ c c', L c → Quiet c c' → L c') →
      (∀ s top nesting inHook, Followed L (Arrives w (Sets w c m x v origins below place)) H m s top
        nesting inHook below (.ofUse place (settled w c m x v origins).1)) →
      Follows L (Arrives w (Sets w c m x v origins below place)) H 0 m
        (p.replied call rest (replyTo (settled w c m x v origins).1))) :
    Follows (Quiet c) (Arrives w (Sets w c m x v origins below place)) H 0 m p := by
  intro c₁ hook ticks environment hc hh
  -- Until the reply the table stays; from then on it is the one that the host has left.
  let L (c' : Context) : Prop := c'.shared.table.unattributed = (settled w c m x v origins).2.unattributed
  refine follows_reply (backward_arrives w (Quiet c) _) hc hf hframes fun reply c' hr => ?_
  let asking : Context := { c₁ with shared := { c₁.shared with ticks } }
  have hcaller : asking.caller = c.caller := hc.caller
  obtain ⟨hreply, htable⟩ := respond_settled (w := w) (x := x) (v := v) hcaller hc.table
    (data_clocked m p hook ticks environment) hcount
  rw [hr] at hreply htable
  obtain rfl : reply = replyTo (settled w c m x v origins).1 := hreply
  have hquiet : ∀ c c', L c → Quiet c c' → L c' := fun c c' hL hq => by
    show c'.shared.table.unattributed = _
    rw [hq.table]
    exact hL
  exact hback L hquiet (fun _ _ _ _ => followed_endsWith (fun _ => id) _) c' hook _ environment htable hh

end Setting

/-- The innermost function that is active. -/
def caller? (m : Machine) : Option Level := (m.frames.filterMap Frame.level?).head?

/-- What a handle that is called tells the host about where that is: a source and a traceback. -/
def whereabouts (m : Machine) : List Bytes :=
  [callerText m.store (caller? m),
    tracebackText (described m.store (caller? m)) (m.frames.filterMap Frame.level?) 0]

/-- Whether all of it can be read. -/
def Readable (m : Machine) : Prop := ∀ text ∈ whereabouts m, ∃ s, Text.decodeUtf8 text = .ok s

/-- No limit is near, so that a function of a script can call a setter. -/
structure Roomy (m : Machine) : Prop where
  source : ∀ l, caller? m = some l → (l.source m.store).length + 1 < 2 ^ 63
  depth : m.depth + 4 < Machine.depthLimit
  nesting : m.nesting < Machine.nestingLimit

section Calls

variable {w : Surroundings} {c : Context} {m : Machine} {x : String} {v : Value} {below : List Frame}
  {place : Bytes} {origin : Option Origin} {f : Value} {args : List Value}

/-- Wherever the hook of the deadline is called meanwhile, it goes back there, or the time is over. -/
theorem Roomy.secure (hm : Roomy m) {l : Places}
    (hw : Watched (m.hook.map fun k => (k.function, k.count)) l m.store) {L : Context → Prop}
    (hL : ∀ c c', L c → Quiet c c' → L c') {e : Ending} {t : SymbolTable} {s : Store}
    (hs : m.store.Extends s) :
    Secure L (Arrives w (EndsWith e t below)) (m.hook.map fun k => (k.function, k.count)) m (m.depth + 4)
      m.nesting m.inHook s := by
  have hroom := hm.depth
  refine ⟨fun frames depth htop => ?_, fun frames u depth htop hfull => by omega⟩
  rcases hw with hnone | ⟨hook, check, hhook, ht⟩
  · exact .inr (.inl hnone)
  · cases hin : m.inHook with
    | true => exact .inl rfl
    | false =>
      rw [hhook]
      refine .inr (.inr (recovers_of_timed (backward_arrives w L _) hL (ht.of_extends hs)
        (fun u hfull => ?_) fun f chunk message _ c _ _ _ hc htime _ => ?_))
      · have := hm.nesting
        omega
      · exact Expired.arrives ⟨htime, rfl, message, rfl⟩

/-- A function of a script is called, for another value or itself. -/
theorem call_of_callee {p : Spot} {args' : List Value} {id extra : Nat}
    (hcallee : p.store.callee 100 f args = some (.closure id, args', extra))
    (hdepth : p.depth < Machine.depthLimit) : (p.on m).call f args origin false =
      (⟨p.store, .script (Activation.enter p.store id args' origin false extra false) :: p.frames,
        p.depth + 1, p.nesting, p.inHook, .script⟩ : Spot).on m := by
  have hlimit : ¬ Machine.depthLimit ≤ (p.on m).depth := Nat.not_le.mpr hdepth
  rw [Spot.call_of_allows (fun h => by cases h), hcallee]
  simp only [Machine.enter, hlimit, if_false]
  rfl

/-- The call of a function, if it can be followed from its first instruction on. -/
theorem call_of_follows {R : Context → Machine → Prop} {args' : List Value} {id extra : Nat}
    (hm : Roomy m) (hcallee : m.store.callee 100 f args = some (.closure id, args', extra))
    (h : Follows (Quiet c) R (m.hook.map fun k => (k.function, k.count)) 0 m
      ⟨m.store, .script (Activation.enter m.store id args' origin false extra false) :: m.frames, m.depth + 1,
        m.nesting, m.inHook, .script⟩) : R c (m.call f args origin false) := by
  have hdepth : m.depth < Machine.depthLimit := Nat.lt_of_le_of_lt (Nat.le_add_right _ 4) hm.depth
  let p : Spot := ⟨m.store, m.frames, m.depth, m.nesting, m.inHook, m.focus⟩
  have hcall : (p.on m).call f args origin false = _ := call_of_callee hcallee hdepth
  have hthere := h c m.hook m.ticks m.environment (.refl c) ⟨rfl, fun _ _ => Nat.zero_le _⟩
  have hself : m.call f args origin false = _ := hcall
  rw [hself, ← Machine.clocked_self (Spot.on _ m)]
  exact hthere

/-- The setter that scripts have. -/
theorem arrives_symbolSet (hm : Roomy m) {l : Places}
    (hw : Watched (m.hook.map fun k => (k.function, k.count)) l m.store) {id host env level : Nat}
    (hfunction : m.store.HasFunction id 11 [host, env, level])
    (hhost : m.store.cell host = .host (.function Capability.setAny.guestName))
    (hraises : Raises m.store env level 2) :
    Arrives w (Sets w c m x v [] m.frames (placeText m.store (caller? m))) c
      (m.call (.closure id) [.text x, v] origin false) := by
  have hself : m.store.Extends m.store := .refl _
  have hcaller : (m.frames.filterMap Frame.level?)[0]? = caller? m := List.head?_eq_getElem?.symm
  obtain ⟨hcode, henter⟩ := Activation.enter_eq hfunction
    (show (11, wrapperShape) ∈ shapes by simp [shapes]) [.text x, v] origin false 0 false
  refine call_of_follows hm rfl ?_
  rw [henter]
  refine follows_wrapping (backward_arrives w _ _) hcode (hm.secure hw (fun _ _ => Quiet.trans) hself)
    (by omega) hhost ?_
  have hasks : Focus.asking Capability.setAny.guestName [.text x, v] =
      .asking Capability.setAny.guestName (.text x :: v :: ([] : List Bytes).map .string) := rfl
  refine follows_setting hasks rfl (by simp) fun L hL hended => ?_
  exact follows_replied (backward_arrives w _ _) (hm.secure hw hL hself) (by omega) hcode hraises (by decide)
    rfl hcaller (hended _ _ _ _)

theorem placeText_described (s : Store) (l l' : Option Level) :
    placeText (described s l) l' = placeText s l' := by
  cases l <;> rfl

/-- A method of a handle. -/
theorem arrives_method (hm : Roomy m) {l : Places}
    (hw : Watched (m.hook.map fun k => (k.function, k.count)) l m.store) {h : HandlePlaces}
    (hs : Handles h m.store) (hraises : Raises m.store h.env h.level 4) {id index extra : Nat} {self : Value}
    (hmethod : m.store.HasFunction id index [h.setFrom])
    (hindex : (index, setterShape) ∈ shapes)
    (hname : m.store.index self (.string (bytes "_name")) = .value (.text x))
    (hcallee : m.store.callee 100 f args = some (.closure id, [self, v], extra)) :
    Arrives w (Sets w c m x v (whereabouts m) m.frames (placeText m.store (caller? m))) c
      (m.call f args origin false) := by
  have hR := fun L => backward_arrives w L
    (Sets w c m x v (whereabouts m) m.frames (placeText m.store (caller? m)))
  refine call_of_follows hm hcallee ?_
  refine follows_method (hR _) hs (fun s' => hm.secure hw fun _ _ => Quiet.trans) (by omega) hmethod hindex hname (by simp [Value.text]) rfl hm.source
    fun chunk₁ chunk₂ chunk₃ f₁ f₂ f₃ slots₁ slots₂ hcode₁ hcode₂ hcode₃ hslots₁ hslots₂ => ?_
  refine follows_setting rfl rfl (Nat.le_refl _) fun L hL hended => ?_
  -- The table that describes the caller is in the store by now; no other part of it has changed.
  have hmore := extends_described m.store (caller? m)
  have htop : m.depth + 3 ≤ m.depth + 4 := by omega
  have hrest : ∀ i, passingOn i <+: passingOn i ++ [.ret 0 false] := fun _ => List.prefix_append _ _
  have hcaller : ∀ a b : Activation,
      ((.script a :: .script b :: m.frames).filterMap Frame.level?)[2]? = caller? m := fun a b => by
    rw [caller?, List.head?_eq_getElem?]
    rfl
  refine follows_replied (hR L) (hm.secure hw hL hmore) htop hcode₁ (hraises.of_extends hmore)
    (by decide) rfl (hcaller _ _) ?_
  rw [placeText_described]
  refine .passing (hR L) (hm.secure hw hL hmore) hcode₂ (hrest 4) (by simp [assigning, hslots₁])
    rfl rfl rfl rfl ?_
  exact .passing (hR L) (hm.secure hw hL hmore) hcode₃ (hrest 2) (by simp [acting, hslots₂])
    rfl rfl rfl rfl (hended _ _ _ _)

end Calls

end Context

end KernelConfig
