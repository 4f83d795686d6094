import KernelConfig.Script.Frame
import KernelConfig.Script.Library

/-!
The machine: it runs the functions of a script and of the library, its threads, its errors and its
hooks, one transition at a time, until the call of the host has ended or a function of the host is
asked for.
-/

set_option autoImplicit false

namespace KernelConfig.Script

inductive ThreadState where
  | fresh (f : Value)
  | suspended (frames : List Frame) (depth nesting : Nat)
  /-- Being run, or waiting for a thread that it has resumed. -/
  | active
  | dead (error : Option Value) (frames : List Frame)

structure Hook where
  function : Value
  /-- The hook is called after this many instructions, again and again. -/
  count : Nat
  left : Nat

structure Thread where
  state : ThreadState
  hook : Option Hook := none

instance : Inhabited Thread := ⟨{ state := .dead none [] }⟩

/-- A thread that waits for the one that it has resumed. -/
structure Waiting where
  thread : Nat
  frames : List Frame
  depth : Nat
  nesting : Nat

inductive Focus where
  | script
  | act (a : Act)
  | call (f : Value) (args : List Value) (origin : Option Origin) (isNested : Bool)
  | deliver (results : List Value)
  | raise (v : Value)
  | unwind (v : Value)
  | asking (function : String) (args : List Value)
  | finished (r : Except Value (List Value))

structure Machine where
  store : Store := {}
  focus : Focus := .finished (.ok [])
  frames : List Frame := []
  /-- How many frames there are. -/
  depth : Nat := 0
  /-- How many frames were called by something other than a script. -/
  nesting : Nat := 0
  threads : Array Thread := #[{ state := .active }]
  current : Nat := 0
  waiting : List Waiting := []
  inHook : Bool := false
  /-- Instructions executed so far. -/
  ticks : Nat := 0
  /-- The variables of the process. -/
  environment : List (String × String) := []

namespace Machine

def nestingLimit : Nat := 200

def depthLimit : Nat := 190000

def thread (m : Machine) (id : Nat) : Thread := m.threads.getD id default

def setState (m : Machine) (id : Nat) (state : ThreadState) : Machine :=
  { m with threads := m.threads.modify id fun t => { t with state } }

def pushFrame (m : Machine) (f : Frame) : Machine :=
  { m with
    frames := f :: m.frames, depth := m.depth + 1, nesting := m.nesting + f.isNested.toNat }

/-- Takes note that a frame is gone. -/
def dropped (m : Machine) (f : Frame) (rest : List Frame) : Machine :=
  { m with frames := rest, depth := m.depth - 1, nesting := m.nesting - f.isNested.toNat }

def raiseText (m : Machine) (message : Bytes) : Machine :=
  { m with focus := .raise (.string message) }

/-- Raises an error at the place where a script's function is, if one is innermost. -/
def raiseHere (m : Machine) (message : Bytes) : Machine :=
  m.raiseText (Frame.position m.store m.frames ++ message)

/-! ### Calls -/

/-- Calls a function that needs no other one in its place. -/
def enter (m : Machine) (f : Value) (args : List Value) (origin : Option Origin)
    (isTail isNested : Bool) (extraArguments : Nat) : Machine :=
  match f with
  | .closure id =>
    if depthLimit ≤ m.depth then m.raiseHere (bytes "stack overflow")
    else
      let a := Activation.enter m.store id args origin isTail extraArguments isNested
      { m.pushFrame (.script a) with focus := .script }
  | .native fn =>
    let s := m.store
    let m := ({ m with store := {} }).pushFrame
      (.native { function := f, origin, extraArguments, isNested })
    { m with focus := .act ((Library.task fn args).run s) }
  | .host (.function name) =>
    let m := m.pushFrame (.native { function := f, origin, extraArguments, isNested })
    { m with focus := .asking name args }
  | _ => m

def calleeFault (m : Machine) (f : Value) (origin : Option Origin) : Machine :=
  m.raiseHere ((typeFault m.store .left f "call").text origin none)

def call (m : Machine) (f : Value) (args : List Value) (origin : Option Origin) (isNested : Bool) :
    Machine :=
  if isNested && nestingLimit ≤ m.nesting then m.raiseHere (bytes "C stack overflow")
  else match m.store.callee 100 f args with
    | none => m.calleeFault f origin
    | some (f, args, extra) => m.enter f args origin false isNested extra

/-- Goes on after a step of the script's function on top, whose frame has been taken off. -/
def afterStep (m : Machine) (rest : List Frame) (step : Step) : Machine :=
  match step with
  | .next s a => { m with store := s, frames := .script a :: rest, focus := .script }
  | .call s a f args origin isNested =>
    ({ m with store := s, frames := .script a :: rest }).call f args origin isNested
  | .tailCall s a f args origin =>
    let m := { m with store := s }
    match m.store.callee 100 f args with
    | none => ({ m with frames := .script a :: rest }).calleeFault f origin
    | some (.closure id, args, extra) =>
      (m.dropped (.script a) rest).enter (.closure id) args none true a.isNested extra
    | some (f, args, extra) =>
      ({ m with frames := .script a :: rest }).enter f args origin false false extra
  | .ret s a vs => { ({ m with store := s }).dropped (.script a) rest with focus := .deliver vs }
  | .fail s a message => ({ m with store := s, frames := .script a :: rest }).raiseHere message

/-! ### Results and errors -/

/-- Gives the result of the current thread to the one that has resumed it. -/
def leave (m : Machine) (result : Except Value (List Value)) : Machine :=
  match m.waiting with
  | [] => { m with focus := .finished result }
  | w :: waiting =>
    let m := { m with
      current := w.thread, frames := [], depth := w.depth, nesting := w.nesting, waiting }
    match w.frames with
    | .native c :: rest => match c.pending with
      | .resumed k =>
        let s := m.store
        { m with
          store := {}, frames := .native { c with pending := .running } :: rest
          focus := .act (k s result) }
      | _ => { m with focus := .finished result }
    | _ => { m with focus := .finished result }

/-- Lets the library function on top go on. -/
def proceed (m : Machine) (c : NativeCall) (rest : List Frame) (k : Store → Act) : Machine :=
  let s := m.store
  { m with
    store := {}, frames := .native { c with pending := .running } :: rest, focus := .act (k s) }

/-- Closes the next value, or ends the closing. -/
def closeNext (m : Machine) (error : Option Value) (rest : List Frame) : List Value → Machine
  | v :: others =>
    let m := { m with frames := .closing others error :: rest }
    m.call (m.store.metafield v (bytes "__close")) [v, error.getD .nil] (Step.metamethod "close") true
  | [] =>
    match rest with
    | .native c :: below => match c.pending, error with
      | .guarded _ k, some e => m.proceed c below fun s => k s (.error e)
      | .closed k, some e => m.proceed c below fun s => k s (.error e)
      | .closed k, none => m.proceed c below fun s => k s (.ok ())
      | _, _ => { m with frames := rest, focus := .finished (.error (error.getD .nil)) }
    | _ => { m with frames := rest, focus := .finished (.error (error.getD .nil)) }

def deliver (m : Machine) (vs : List Value) : Machine :=
  match m.frames with
  | [] => (m.setState m.current (.dead none [])).leave (.ok vs)
  | .entry :: _ => { m with focus := .finished (.ok vs) }
  | .script a :: rest =>
    let step := a.resume m.store vs
    ({ m with store := {}, frames := [] }).afterStep rest step
  | .native c :: rest => match c.pending with
    | .results k => m.proceed c rest fun s => k s vs
    | .guarded _ k => m.proceed c rest fun s => k s (.ok vs)
    | .resumed k => m.proceed c rest fun s => k s (.ok vs)
    | .yielded k => m.proceed c rest fun s => k s vs
    | .closed k => m.proceed c rest fun s => k s (.ok ())
    | .running => { m.dropped (.native c) rest with focus := .deliver vs }
  | .handling :: rest => { m with frames := rest, focus := .unwind (first vs) }
  | .hook :: rest => { m with frames := rest, inHook := false, focus := .script }
  | .closing others error :: rest => m.closeNext error rest others

/-- An error first goes to the handler of the innermost guarded call, while all frames are there. -/
def raise (m : Machine) (v : Value) : Machine :=
  match Frame.handler? m.frames with
  | some (some h) =>
    if nestingLimit + 20 ≤ m.nesting then
      { m with focus := .unwind (.text "error in error handling") }
    else
      let m := { m with frames := .handling :: m.frames }
      match m.store.callee 100 h [v] with
      | none => m.calleeFault h none
      | some (h, args, extra) => m.enter h args none false true extra
  | _ => { m with focus := .unwind v }

/-- An error that is nil becomes a text of its own. -/
def unwind (m : Machine) (v : Value) : Machine :=
  let v := if v.isNil then .text "<no error object>" else v
  match Frame.unwind m.store [] 0 0 m.frames with
  | none => (m.setState m.current (.dead (some v) m.frames)).leave (.error v)
  | some u =>
    let m := { m with
      frames := u.frames, depth := m.depth - u.gone, nesting := m.nesting - u.goneNested
      inHook := m.inHook && u.frames.any Frame.isHook }
    m.closeNext (some v) u.frames u.toClose

/-! ### What library functions ask for -/

def levels (m : Machine) (id : Option Nat) : List Level :=
  let frames := match id with
    | none => m.frames
    | some id =>
      if id = m.current then m.frames
      else match m.waiting.find? (fun w : Waiting => w.thread == id), (m.thread id).state with
        | some w, _ => w.frames
        | none, .suspended frames _ _ => frames
        | none, .dead _ frames => frames
        | none, _ => []
  frames.filterMap Frame.level?

def status (m : Machine) (id : Nat) : ThreadStatus :=
  if id = m.current then .running
  else match (m.thread id).state with
    | .fresh _ | .suspended .. => .suspended
    | .active => .normal
    | .dead .. => .dead

def isYieldable (m : Machine) : Bool := m.current ≠ 0 && m.frames.all Frame.allowsYield

/-- The message about an argument of the library function on top. -/
def argumentText (m : Machine) (c : NativeCall) (number : Nat) (message : Bytes) : Bytes :=
  let isMethod := (c.origin.map fun o => o.kind == .method).getD false
  let name := match c.origin with
    | some o => o.name
    | none => (Library.globalName m.store c.function).getD (bytes "?")
  let text (word : String) (n : Nat) : Bytes :=
    bytes ("bad " ++ word ++ " #" ++ Text.decimal n ++ " to '") ++ name ++ bytes "' (" ++ message
      ++ bytes ")"
  if number ≤ c.extraArguments then text "extra argument" number
  else
    let n := number - c.extraArguments
    if isMethod && n = 1 then
      bytes "calling '" ++ name ++ bytes "' on bad self (" ++ message ++ bytes ")"
    else text "argument" (if isMethod then n - 1 else n)

/-- Puts the current thread aside and makes another one the current one. -/
def switch (m : Machine) (id : Nat) (frames : List Frame) (depth nesting : Nat) (focus : Focus) :
    Machine :=
  let w : Waiting := ⟨m.current, m.frames, m.depth, m.nesting⟩
  let m := { m with
    waiting := w :: m.waiting, current := id, frames, depth := m.depth + depth
    nesting := m.nesting + 1 + nesting, focus }
  m.setState id .active

/-- Sets aside what the library function on top waits for, and does something for it. -/
def await (m : Machine) (s : Store) (c : NativeCall) (rest : List Frame) (pending : Pending) : Machine :=
  { m with store := s, frames := .native { c with pending } :: rest }

def resume (m : Machine) (s : Store) (c : NativeCall) (rest : List Frame) (id : Nat)
    (args : List Value) (k : Store → Except Value (List Value) → Act) : Machine :=
  let refuse (message : String) : Machine := { m with focus := .act (k s (.error (.text message))) }
  if nestingLimit ≤ m.nesting then refuse "C stack overflow"
  else match (m.thread id).state with
    | .active => refuse "cannot resume non-suspended coroutine"
    | .dead .. => refuse "cannot resume dead coroutine"
    | .fresh f =>
      (m.await s c rest (.resumed k)).switch id [] 0 0 (.call f args none false)
    | .suspended frames depth nesting =>
      (m.await s c rest (.resumed k)).switch id frames depth nesting (.deliver args)

def yield (m : Machine) (s : Store) (c : NativeCall) (rest : List Frame) (vs : List Value)
    (k : Store → List Value → Act) : Machine :=
  if m.isYieldable then
    let m := m.await s c rest (.yielded k)
    let (depth, nesting) := match m.waiting with
      | w :: _ => (m.depth - w.depth, m.nesting - w.nesting - 1)
      | [] => (0, 0)
    (m.setState m.current (.suspended m.frames depth nesting)).leave (.ok vs)
  else
    let m := { m with store := s }
    if m.current = 0 then m.raiseText (bytes "attempt to yield from outside a coroutine")
    else m.raiseText (bytes "attempt to yield across a C-call boundary")

/-- Ends a thread for good; the variables that it has left open are closed. -/
def close (m : Machine) (s : Store) (c : NativeCall) (rest : List Frame) (id : Nat)
    (k : Store → Except Value Unit → Act) : Machine :=
  let open_ (frames : List Frame) : List Value := frames.flatMap fun f => match f with
    | .script a => a.closing s
    | _ => []
  match (m.thread id).state with
  | .active => { m with focus := .act (k s (.ok ())) }
  | .fresh _ => { m.setState id (.dead none []) with focus := .act (k s (.ok ())) }
  | .suspended frames _ _ =>
    let m := (m.setState id (.dead none [])).await s c rest (.closed k)
    m.closeNext none m.frames (open_ frames)
  | .dead error frames =>
    let m := (m.setState id (.dead none [])).await s c rest (.closed k)
    m.closeNext error m.frames (open_ frames)

def setHook (m : Machine) (id : Nat) (hook : Option (Value × Nat)) : Machine :=
  { m with threads := m.threads.modify id fun t =>
      { t with hook := hook.map fun (function, count) => { function, count, left := count } } }

/-- Does what the library function on top asks for. -/
def act (m : Machine) (c : NativeCall) (rest : List Frame) (a : Act) : Machine :=
  match a with
  | .done s vs => { ({ m with store := s }).dropped (.native c) rest with focus := .deliver vs }
  | .raise s v => { m with store := s, focus := .raise v }
  | .fail s message =>
    { m with store := s, focus := .raise (.string (Frame.position s rest ++ message)) }
  | .badArgument s number message =>
    let m := { m with store := s }
    m.raiseText (Frame.position s rest ++ m.argumentText c number message)
  | .call s f args k => { m.await s c rest (.results k) with focus := .call f args none true }
  | .guarded s f args handler k =>
    { m.await s c rest (.guarded handler k) with focus := .call f args none true }
  | .levels s id k => { m with focus := .act (k s (m.levels id)) }
  | .newThread s f k =>
    let id := m.threads.size
    { m with threads := m.threads.push { state := .fresh f }, focus := .act (k s id) }
  | .threadStatus s id k => { m with focus := .act (k s (m.status id)) }
  | .running s k => { m with focus := .act (k s m.current) }
  | .isYieldable s k => { m with focus := .act (k s m.isYieldable) }
  | .resume s id args k => m.resume s c rest id args k
  | .yield s vs k => m.yield s c rest vs k
  | .close s id k => m.close s c rest id k
  | .setHook s id hook k => { m.setHook (id.getD m.current) hook with focus := .act (k s) }
  | .getHook s id k =>
    let hook := (m.thread (id.getD m.current)).hook
    { m with focus := .act (k s (hook.map fun h => (h.function, h.count))) }
  | .ticks s k => { m with focus := .act (k s m.ticks) }
  | .variable s name k =>
    { m with focus := .act (k s ((m.environment.find? (·.1 = name)).map (·.2))) }

/-! ### Running -/

/-- How many instructions are executed at once. -/
def slice : Nat := 10000

def callHook (m : Machine) (h : Hook) : Machine :=
  let m := { m with
    frames := .hook :: m.frames, inHook := true
    threads := m.threads.modify m.current fun t => { t with hook := some { h with left := h.count } } }
  m.call h.function [.text "count", .nil] (some ⟨.hook, bytes "?"⟩) true

def executed (m : Machine) (n : Nat) : Machine :=
  { m with
    ticks := m.ticks + n
    threads := m.threads.modify m.current fun t =>
      { t with hook := t.hook.map fun h => { h with left := h.left - n } } }

/-- Executes so many instructions of the script's function on top at most. -/
def runFor (m : Machine) (budget : Nat) (a : Activation) (rest : List Frame) : Machine :=
  let s := m.store
  let m := { m with store := {}, frames := [] }
  let (left, step) := execute budget s a
  (m.executed (budget - left)).afterStep rest step

/-- Runs the script's function on top, but not past the point where the hook is to be called. -/
def runScript (m : Machine) (limit : Nat) (a : Activation) (rest : List Frame) : Machine :=
  match (m.thread m.current).hook with
  | some h => m.runFor (if m.inHook then limit else min limit h.left) a rest
  | none => m.runFor limit a rest

/-- One transition, of at most so many instructions. -/
def advanceBy (limit : Nat) (m : Machine) : Machine :=
  match m.focus with
  | .script => match m.frames with
    | .script a :: rest =>
      match (m.thread m.current).hook with
      | some h => if h.left = 0 && !m.inHook then m.callHook h else m.runScript limit a rest
      | none => m.runScript limit a rest
    | _ => { m with focus := .finished (.ok []) }
  | .act a => match m.frames with
    | .native c :: rest => m.act c rest a
    | _ => { m with focus := .finished (.ok []) }
  | .call f args origin isNested => m.call f args origin isNested
  | .deliver vs => m.deliver vs
  | .raise v => m.raise v
  | .unwind v => m.unwind v
  | .asking .. | .finished _ => m

def advance (m : Machine) : Machine := m.advanceBy slice

/-- Runs until the call has ended or the host is asked; `fuel` bounds the number of transitions. -/
def run : (fuel : Nat) → Machine → Machine
  | 0, m => m
  | fuel + 1, m =>
    match m.focus with
    | .asking .. | .finished _ => m
    | _ => run fuel m.advance

/-- More transitions than any script makes. -/
def plenty : Nat := 2 ^ 50

def start (environment : List (String × String)) : Machine :=
  { store := Library.initialStore, environment }

/-- Begins a call of the host. -/
def invoke (m : Machine) (f : Value) (args : List Value) : Machine :=
  { m with frames := [.entry], depth := 0, nesting := 1, focus := .call f args none true }

/-- Goes on with the results of the host's function that was asked for. -/
def answer (m : Machine) (vs : List Value) : Machine :=
  match m.frames with
  | f :: rest => { m.dropped f rest with focus := .deliver vs }
  | [] => { m with focus := .deliver vs }

def refuse (m : Machine) (v : Value) : Machine := { m with focus := .raise v }

end Machine

end KernelConfig.Script
