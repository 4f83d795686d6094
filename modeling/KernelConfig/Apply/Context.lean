import KernelConfig.Apply.Exchange
import KernelConfig.Namespace.Plan
import KernelConfig.Script.Prelude

/-!
Contexts: a context runs one script against a symbol table, in steps that come in a fixed order and
only once. A step notes its stage before it does its work. Faults that are fatal end the run of the
script in any case, and so does the deadline.
-/

set_option autoImplicit false

namespace KernelConfig

open Script

/-- The functions that the prelude leaves for the program. -/
structure PreludeHooks where
  wrap : Value
  bindHandleSetter : Value
  run : Value
  setDeadline : Value
  defineSymbols : Value

structure Context where
  caller : Caller
  code : String
  stage : Stage := .created
  /-- What runs the script, until the context is closed. -/
  machine : Option Machine
  hooks : Option PreludeHooks := none
  /-- The first fatal fault. -/
  fatal : Option Fault := none
  /-- The time after which the script is stopped. -/
  startTicks : Nat := 0
  timedOut : Bool := false
  shared : ApplyState

abbrev Stepping (α : Type) := ExceptT Failure (StateM Context) α

namespace Context

def fail {α : Type} (f : Fault) : Stepping α := throw (.fault f)

def source : Stepping String := do return (← get).caller.source

def closedFault (source : String) : Fault :=
  Fault.of .internalBridge ("execution context for " ++ source ++ " was already closed")

/-- What runs the script; it is gone once the context is closed. -/
def runtime : Stepping Machine := do
  match (← get).machine with
  | some m => return m
  | none => fail (closedFault (← source))

def setRuntime (m : Machine) : Stepping Unit := modify fun c => { c with machine := some m }

def advance (expected next : Stage) : Stepping Unit := do
  let c ← get
  if c.stage = expected then set { c with stage := next }
  else fail (Fault.of .internalBridge ("execution context for " ++ c.caller.source ++ " is "
    ++ c.stage.name ++ ", expected " ++ expected.name))

/-- Does a part of an apply on the state that the context works on. -/
def sharing {α : Type} (part : Apply α) : Stepping α := fun c =>
  let (r, shared) := part c.shared
  (r, { c with shared })

/-! ### Serving the script -/

/-- Whether so many instructions fit into a time. -/
def withinTime (limit : Double) (ticks : Nat) : Bool :=
  if limit.isNan then false
  else if limit.isInfinite then !limit.isNegative
  else if limit.isNegative then false
  else
    let (num, den) := limit.sizeRatio
    ticks * den ≤ num * Library.ticksPerSecond

def deadlineText (limit : Double) : String :=
  "script exceeded its " ++ Decimal.generalText 6 limit ++ "s deadline"

def deadlineName : String := "deadline"

/-- The answer to the question whether there is time left. -/
def checkDeadline (w : Surroundings) (c : Context) (ticks : Nat) : List Datum × Context :=
  match w.settings.scriptTimeout with
  | none => ([.text "ok"], c)
  | some limit =>
    if withinTime limit (ticks - c.startTicks) then ([.text "ok"], c)
    else ([.text "error", .text (deadlineText limit)], { c with timedOut := true })

/-- The answer to a capability: its results, or the message of its fault. A fatal fault is kept. -/
def useCapability (w : Surroundings) (c : Context) (what : Capability) (arguments : List Datum) :
    Except Mishap (List Datum) × Context :=
  let (r, shared) := (Apply.used w c.caller what arguments) c.shared
  let c := { c with shared }
  match r with
  | .ok results => (.ok (.text "ok" :: results), c)
  | .error (.fault f) =>
    (.ok [.text "error", .text f.message],
      if f.fatal && c.fatal.isNone then { c with fatal := some f } else c)
  | .error (.mishap m) => (.error m, c)

/-- What a script gets that looks into a host function or an error of the host. -/
def forbidden (m : Machine) (arguments : List Value) : Mishap :=
  match m.datum (arguments.getD 1 .nil) with
  | .ok d => .forbiddenAttribute d.shown
  | .error f => f

def respond (w : Surroundings) (c : Context) (m : Machine) (name : String) (arguments : List Value) :
    Except Mishap (List Datum) × Context :=
  if name = "__index" || name = "__newindex" then (.error (forbidden m arguments), c)
  else match m.data arguments with
    | .error f => (.error f, c)
    | .ok data =>
      if name = deadlineName then
        let (r, c) := checkDeadline w c m.ticks
        (.ok r, c)
      else match Capability.ofGuestName? name with
        | some what => useCapability w c what data
        | none => (.ok [], c)

/-- Answers what the script has asked for; the time that has passed is shared meanwhile. -/
def answer (w : Surroundings) (c : Context) (m : Machine) (name : String) (arguments : List Value) :
    Machine × Context :=
  let (r, c) := respond w { c with shared := { c.shared with ticks := m.ticks } } m name arguments
  let m := { m with ticks := c.shared.ticks }
  match r with
  | .ok data => (m.answer (data.map Value.ofDatum), c)
  | .error f => (m.refuse (.host (.failure f)), c)

/-- Runs a call to its end and answers what the script asks for; `fuel` bounds the number of answers. -/
def serve (w : Surroundings) : (fuel : Nat) → Context → Machine →
    Except Value (List Value) × Machine × Context
  | 0, c, m => (.error .nil, m, c)
  | fuel + 1, c, m =>
    let m := m.run Machine.plenty
    match m.focus with
    | .finished r => (r, m, c)
    | .asking name arguments =>
      let (m, c) := answer w c m name arguments
      serve w fuel c m
    | _ => (.error .nil, m, c)

/-- Calls a function of the script, with so many answers at most; the state is shared meanwhile. -/
def callWithin (w : Surroundings) (fuel : Nat) (f : Value) (arguments : List Value) :
    Stepping (Except Value (List Value)) := do
  let m ← runtime
  modify fun c => { c with machine := none }
  let (r, m, c) := serve w fuel (← get) ({ m with ticks := (← get).shared.ticks }.invoke f arguments)
  set { c with machine := some m, shared := { c.shared with ticks := m.ticks } }
  return r

def call (w : Surroundings) (f : Value) (arguments : List Value) :
    Stepping (Except Value (List Value)) := callWithin w Machine.plenty f arguments

/-- The message of an error that no script has caught. -/
def uncaught (e : Value) : Mishap :=
  .script (match e with
    | .string s => Text.decodeUtf8Lossy s
    | .host (.failure f) => f.message
    | v => v.typeName)

/-- Calls a function of the prelude; an error of it is an internal fault. -/
def callInternal (w : Surroundings) (failing : String) (f : Value) (arguments : List Value) :
    Stepping (List Value) := do
  match ← call w f arguments with
  | .ok vs => return vs
  | .error (.host (.failure m)) => throw (.mishap m)
  | .error e =>
    let message := (uncaught e).message
    fail ((Fault.of .internalBridge (failing ++ ": " ++ message)).causedBy message)

/-- Calls a function that is to have no error. -/
def callOrThrow (w : Surroundings) (f : Value) (arguments : List Value) : Stepping (List Value) := do
  match ← call w f arguments with
  | .ok vs => return vs
  | .error (.host (.failure m)) => throw (.mishap m)
  | .error e => throw (.mishap (uncaught e))

/-! ### Steps -/

def withStore (f : Store → Store) : Stepping Unit := do
  let m ← runtime
  setRuntime { m with store := f m.store }

/-- The functions of a chunk in the store, with the globals as environment; the main one. -/
def loadChunk (s : Store) (chunk : Chunk) : Store × Value :=
  let (s, cell) := s.addCell (.table s.globals)
  let (s, id) := s.addClosure { chunk, index := 0, upvalues := #[cell] }
  (s, .closure id)

/-- Takes a global variable away. -/
def takeGlobal (name : String) : Stepping Value := do
  let m ← runtime
  let v := m.store.getText m.store.globals name
  setRuntime { m with store := m.store.setText m.store.globals name .nil }
  return v

/-- Runs the prelude and takes its functions for the program out of the globals. -/
def loadPrelude (w : Surroundings) : Stepping Unit := do
  advance .created .preludeLoaded
  let m ← runtime
  let (s, main) := loadChunk m.store Prelude.chunk
  setRuntime { m with store := s }
  let _ ← callInternal w "prelude failed" main []
  let wrap ← takeGlobal "__ak_wrap"
  let bindHandleSetter ← takeGlobal "__ak_bind_handle_setter"
  let run ← takeGlobal "__ak_run"
  let setDeadline ← takeGlobal "__ak_set_deadline"
  let defineSymbols ← takeGlobal "__ak_define_symbols"
  modify fun c => { c with hooks := some { wrap, bindHandleSetter, run, setDeadline, defineSymbols } }

/-- A function of the prelude, under the name that it is kept by. -/
def hook (name : String) (f : PreludeHooks → Value) : Stepping Value := do
  match (← get).hooks with
  | some hooks => return f hooks
  | none => throw (.mishap (.missingKey name))

def apiFailing : String := "cannot install capability API"

/-- A capability as scripts get it: its errors are raised `level` functions up. -/
def wrapped (w : Surroundings) (what : Capability) (level : Int64) : Stepping Value := do
  let wrap ← hook "__ak_wrap" (·.wrap)
  return first (← callInternal w apiFailing wrap [.host (.function what.guestName), .int level])

def setGlobal (name : String) (v : Value) : Stepping Unit :=
  withStore fun s => s.setText s.globals name v

/-- The members of a library that a sandbox takes away. -/
def restricted : List (String × List String) :=
  [("os", ["execute", "remove", "rename", "exit", "tmpname"]), ("package", ["loadlib"]),
    ("debug", ["sethook", "getupvalue", "setupvalue", "upvaluejoin", "getlocal", "setlocal",
      "getregistry"])]

/-- Takes away what leads out of a script. -/
def restrict (s : Store) : Store :=
  let s := ["io", "dofile", "loadfile", "python"].foldl (fun s n => s.setText s.globals n .nil) s
  let inLibrary (s : Store) (library : String) (f : Store → Nat → Store) : Store :=
    match s.getText s.globals library with
    | .table id => f s id
    | _ => s
  let s := restricted.foldl (fun s e => inLibrary s e.1 fun s id =>
    e.2.foldl (fun s n => s.setText id n .nil) s) s
  inLibrary s "package" fun s id => s.setText id "cpath" (.text "")

/-- The capabilities of the script's table, each with its name. -/
def wrappedMembers (w : Surroundings) : List Capability → Stepping (List (String × Value))
  | [] => return []
  | what :: rest => do
    let f ← wrapped w what 2
    return (what.guestName, f) :: (← wrappedMembers w rest)

/-- Makes the capabilities known to the script, starts the time, and closes the sandbox. -/
def installApi (w : Surroundings) : Stepping Unit := do
  advance .preludeLoaded .apiInstalled
  let _ ← hook "__ak_wrap" (·.wrap)
  let version := (w.lookup? (← get).shared.table "KERNELVERSION").getD ""
  let members ← wrappedMembers w Capability.members
  let t := members.foldl (fun (t : Script.Table) e => t.setText e.1 e.2)
    (({} : Script.Table).setText "kernel_version" (.text version))
  withStore fun s =>
    let (s, id) := s.addTable t
    s.setText s.globals "ak" (.table id)
  setGlobal "symbol_set" (← wrapped w .setAny 2)
  setGlobal "load_kconfig" (← wrapped w .load 2)
  let bind ← hook "__ak_bind_handle_setter" (·.bindHandleSetter)
  let _ ← callInternal w apiFailing bind [← wrapped w .setAny 4]
  if w.settings.scriptTimeout.isSome then
    modify fun c => { c with startTicks := c.shared.ticks }
    let setDeadline ← hook "__ak_set_deadline" (·.setDeadline)
    let _ ← callInternal w apiFailing setDeadline [.host (.function deadlineName), .int 10000]
  if w.settings.sandbox then withStore restrict

/-- The plan as a list of tables: the symbol, its long global, and its bare one or false. -/
def bindingTables (s : Store) (bs : List Namespace.Binding) : Store × Value :=
  let entry (s : Store) (b : Namespace.Binding) : Store × Nat :=
    s.addTable { items := #[.text b.symbol, .text b.long, (b.bare.map Value.text).getD (.bool false)] }
  let (s, items) := bs.foldl (fun (s, items) b =>
    let (s, id) := entry s b
    (s, items.push (.table id))) (s, #[])
  let (s, id) := s.addTable { items }
  (s, .table id)

/-- Binds a handle for every symbol that can have one. -/
def installNamespace (w : Surroundings) : Stepping Unit := do
  advance .apiInstalled .namespaceInstalled
  match Namespace.plan w.settings.symbolLead (← get).shared.table.names with
  | .error f => fail f.fault
  | .ok bindings =>
    let m ← runtime
    let (s, entries) := bindingTables m.store bindings
    setRuntime { m with store := s }
    let define ← hook "__ak_define_symbols" (·.defineSymbols)
    let _ ← callInternal w "<internal>::define_all_syms failed" define [entries]
    let c ← get
    sharing (Apply.log .debug "namespace.generated"
      [("source", .text c.caller.source), ("bindings", .int bindings.length)])

/-- The script as a function, or the message of what is wrong with its text. -/
def compileScript (source code : String) : Except Bytes Chunk :=
  let name := Library.cString (bytes ("@" ++ source))
  let text := bytes code
  if text.head? == some 27 then .error (bytes "attempt to load a binary chunk (mode is 't')")
  else match compile name text with
    | .ok chunk => .ok chunk
    | .error f => .error (f.text name)

def orText (d : Datum) (default : String) : String :=
  match d.asText? with
  | some s => if s = "" then default else s
  | none => default

def scriptFault (kind : FaultKind) (source message : String) (traceback : Datum) : Fault :=
  let f := (Fault.of kind message).withSource source
  { f with context := { f.context with traceback } }

/-- What the end of a script amounts to; `failed` has its message and its traceback. -/
def conclude (w : Surroundings) (failed : Option (Datum × Datum)) : Stepping Unit := do
  let c ← get
  match c.fatal with
  | some f => fail f
  | none =>
    let (message, traceback) := failed.getD (.null, .null)
    let source := c.caller.source
    if c.timedOut then
      let limit := w.settings.scriptTimeout.getD Double.zero
      fail (scriptFault .scriptTimeout source (orText message (deadlineText limit)) traceback)
    else if failed.isSome then
      fail (scriptFault .script source (orText message "script failed") traceback)

def runScript (w : Surroundings) : Stepping Unit := do
  advance .namespaceInstalled .userScriptRunning
  let m ← runtime
  let source ← source
  match compileScript source (← get).code with
  | .error message =>
    fail (scriptFault .script source
      (orText (.text (Text.decodeUtf8Lossy message)) "syntax error") .null)
  | .ok chunk =>
    let (s, main) := loadChunk m.store chunk
    setRuntime { m with store := s }
    let run ← hook "__ak_run" (·.run)
    let reply ← callOrThrow w run [main]
    match (← runtime).data reply with
    | .error f => throw (.mishap f)
    | .ok (.bool false :: message :: rest) =>
      conclude w (some (message, rest.headD .null))
    | .ok _ => conclude w none

def close : Stepping Unit := modify fun c => { c with machine := none, hooks := none }

/-- All steps; the context is closed afterwards in any case. -/
def execute (w : Surroundings) : Stepping Unit := fun c =>
  let steps : Stepping Unit := do
    loadPrelude w
    installApi w
    installNamespace w
    runScript w
  let (r, c) := steps c
  let c := match r with
    | .ok () => { c with stage := .completed }
    | .error (.fault _) => { c with stage := .failed }
    | .error (.mishap _) => c
  (r, { c with machine := none, hooks := none })

end Context

/-- A new context for a script. -/
def Context.new (w : Surroundings) (caller : Caller) (code : String) (shared : ApplyState) : Context :=
  { caller, code, shared, machine := some (Machine.start w.environment) }

end KernelConfig
