import KernelConfig.Script.Library.Base

/-!
Functions that look into a running script: the active functions, tracebacks, the variables that
functions share, and hooks.
-/

set_option autoImplicit false

namespace KernelConfig.Script.Library

/-- The thread that the first argument may name, and the other arguments. -/
def threadArgument (args : List Value) : Option Nat × List Value × Nat :=
  match args with
  | .thread id :: rest => (some id, rest, 1)
  | args => (none, args, 0)

/-- How a traceback names a function: by the name under which all can reach it, else by that of the
call, else by where it is defined. -/
def functionText (s : Store) (l : Level) : Bytes :=
  match globalName s l.function with
  | some name => bytes "function '" ++ name ++ bytes "'"
  | none => match l.origin with
    | some o => bytes (o.kind.text ++ " '") ++ o.name ++ bytes "'"
    | none => match l.function? s with
      | none => bytes "?"
      | some f =>
        if f.lineDefined = 0 then bytes "main chunk"
        else bytes "function <" ++ shortSource f.source ++ bytes (":" ++ Text.decimal f.lineDefined ++ ">")

def levelText (s : Store) (l : Level) : Bytes :=
  let place := match l.line with
    | some line => positionText (l.source s) line
    | none => shortSource (l.source s) ++ bytes ":"
  bytes "\n\t" ++ place ++ bytes " in " ++ functionText s l
    ++ (if l.isTail then bytes "\n\t(...tail calls...)" else [])

/-- The levels from one on. Of more than twenty-two the first ten and the last eleven are shown. -/
def tracebackText (s : Store) (levels : List Level) (from_ : Nat) : Bytes :=
  let shown := levels.drop from_
  let text :=
    if 22 < shown.length then
      let skipped := shown.length - 21
      (shown.take 10).flatMap (levelText s)
        ++ bytes ("\n\t...\t(skipping " ++ Text.decimal skipped ++ " levels)")
        ++ (shown.drop (10 + skipped)).flatMap (levelText s)
    else shown.flatMap (levelText s)
  bytes "stack traceback:" ++ text

def debugTraceback (args : List Value) : Task (List Value) := do
  let (thread, args, _) := threadArgument args
  match argument args 1 with
  | .table _ | .bool _ | .closure _ | .native _ | .thread _ | .host _ => return [argument args 1]
  | message =>
    let level := (← optInt args 2 (if thread.isSome then 0 else 1)).toInt
    let lead := match stringText? message with
      | some m => cString m ++ [10]
      | none => []
    let levels ← Task.levels thread
    let levels := if level < 0 then [] else levels
    return [.string (lead ++ tracebackText (← Task.store) levels level.toNat)]

/-- The lines of a function that have code. -/
def activeLines (f : Function) : Table :=
  f.ops.foldl (fun t op => if op.line = 0 then t else t.set (whole op.line) (.bool true)) {}

def sourceFields (s : Store) (l : Level) (t : Table) : Table :=
  let f := l.function? s
  let source := l.source s
  let lines (n : Function → Nat) : Value := match f with
    | some f => if f.lineDefined = 0 then .int 0 else whole (n f)
    | none => .int (-1)
  let what := match f with
    | none => "C"
    | some f => if f.lineDefined = 0 then "main" else "Lua"
  ((((t.setText "source" (.string source)).setText "short_src" (.string (shortSource source))).setText
    "linedefined" (lines (·.lineDefined))).setText "lastlinedefined" (lines (·.lastLine))).setText
    "what" (.text what)

def parameterFields (s : Store) (l : Level) (t : Table) : Table :=
  match l.function? s with
  | some f =>
    ((t.setText "nups" (whole f.upvalueNames.length)).setText "nparams" (whole f.parameters)).setText
      "isvararg" (.bool f.varargs)
  | none =>
    ((t.setText "nups" (.int 0)).setText "nparams" (.int 0)).setText "isvararg" (.bool true)

def nameFields (l : Level) (t : Table) : Table :=
  match l.origin with
  | some o => (t.setText "name" (.string o.name)).setText "namewhat" (.text o.kind.text)
  | none => t.setText "namewhat" (.text "")

/-- What the letters of `options` ask for about a level. -/
def describeLevel (options : Bytes) (l : Level) : Task (List Value) := do
  let s ← Task.store
  let asks (c : Char) : Bool := options.contains c.toNat.toUInt8
  let t : Table := {}
  let t := if asks 'S' then sourceFields s l t else t
  let t := if asks 'l' then
      t.setText "currentline" (match l.line with | some n => whole n | none => .int (-1)) else t
  let t := if asks 'u' then parameterFields s l t else t
  let t := if asks 'n' then nameFields l t else t
  let t := if asks 'r' then (t.setText "ftransfer" (.int 0)).setText "ntransfer" (.int 0) else t
  let t := if asks 't' then
      (t.setText "istailcall" (.bool l.isTail)).setText "extraargs" (whole l.extraArguments) else t
  let t ← match asks 'L', l.function? s with
    | true, some f => do
      let lines ← Task.newTable (activeLines f)
      pure (t.setText "activelines" lines)
    | _, _ => pure t
  let t := if asks 'f' then t.setText "func" l.function else t
  return [← Task.newTable t]

def debugGetinfo (args : List Value) : Task (List Value) := do
  let (thread, args, shift) := threadArgument args
  let options ← optString args 2 (bytes "flnSrtu")
  if options.head? == some 62 then badValue (shift + 2) "invalid option '>'"
  else if !options.all (bytes "SlnrutLf").contains then badValue (shift + 2) "invalid option"
  else
    let subject := argument args 1
    if subject.isFunction then
      describeLevel options { function := subject, line := none, origin := none }
    else
      let level := (← checkInt args 1).toInt
      let levels ← Task.levels thread
      match if level < 0 then none else levels[level.toNat]? with
      | some l => describeLevel options l
      | none => return [.nil]

def upvalue? (s : Store) (f : Value) (n : Int) : Option (Bytes × Nat) :=
  match f with
  | .closure id =>
    let c := s.closure id
    if n < 1 then none
    else match c.function.upvalueNames[n.toNat - 1]?, c.upvalues[n.toNat - 1]? with
      | some name, some cell => some (name, cell)
      | _, _ => none
  | _ => none

def debugGetupvalue (args : List Value) : Task (List Value) := do
  let n := (← checkInt args 2).toInt
  let f ← checkFunction args 1
  let s ← Task.store
  match upvalue? s f n with
  | some (name, cell) => return [.string name, s.cell cell]
  | none => return []

def debugSetupvalue (args : List Value) : Task (List Value) := do
  checkAny args 3
  let n := (← checkInt args 2).toInt
  let f ← checkFunction args 1
  let s ← Task.store
  match upvalue? s f n with
  | some (name, cell) =>
    Task.setStore (s.setCell cell (argument args 3))
    return [.string name]
  | none => return []

/-- Makes a variable of one function that of another one. -/
def debugUpvaluejoin (args : List Value) : Task (List Value) := do
  let s ← Task.store
  let f := argument args 1
  match upvalue? s f (← checkInt args 2).toInt with
  | none => badValue 2 "invalid upvalue index"
  | some _ => match upvalue? s (argument args 3) (← checkInt args 4).toInt, f with
    | some (_, cell), .closure id =>
      let n := (← checkInt args 2).toInt.toNat - 1
      Task.setStore { s with closures := s.closures.modify id fun c =>
        { c with upvalues := c.upvalues.setIfInBounds n cell } }
      return []
    | _, _ => badValue 4 "invalid upvalue index"

def debugGetmetatable (args : List Value) : Task (List Value) := do
  checkAny args 1
  return [(((← Task.store).metatable? (argument args 1)).map Value.table).getD .nil]

def debugSetmetatable (args : List Value) : Task (List Value) := do
  let metatable ← match given args 2 with
    | some .nil => pure none
    | some (.table m) => pure (some m)
    | _ => typeError args 2 "nil or table"
  let v := argument args 1
  Task.modifyStore fun s => match v with
    | .table id => s.updateTable id fun t => { t with metatable }
    | v =>
      let others := s.metatables.filter (·.1 ≠ v.typeName)
      { s with metatables := (metatable.map fun m => (v.typeName, m)).toList ++ others }
  return [v]

/-- Of the hooks only the one that counts instructions exists. -/
def debugSethook (args : List Value) : Task (List Value) := do
  let (thread, args, _) := threadArgument args
  if isAbsent args 1 then
    Task.setHook thread none
    return []
  else
    let _ ← checkString args 2
    let f ← checkFunction args 1
    let count ← optInt args 3 0
    Task.setHook thread (if 0 < count then some (f, count.toInt.toNat) else none)
    return []

def debugGethook (args : List Value) : Task (List Value) := do
  let (thread, _, _) := threadArgument args
  match ← Task.getHook thread with
  | some (f, count) => return [f, .text "", whole count]
  | none => return [.nil]

end KernelConfig.Script.Library
