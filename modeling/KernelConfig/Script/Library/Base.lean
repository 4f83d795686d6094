import KernelConfig.Script.Library.Arguments
import KernelConfig.Script.Parser
import KernelConfig.Script.Position

/-!
The basic functions: errors, metatables, raw access, conversions and the loading of source text.
-/

set_option autoImplicit false

namespace KernelConfig.Script.Library

/-- The position of a level in messages, empty where there is none. -/
def whereText (level : Nat) : Task Bytes := do
  let s ← Task.store
  match (← Task.levels none)[level]? with
  | none => return []
  | some l => match l.line with
    | some line => return positionText (l.source s) line ++ bytes " "
    | none => return []

def raiseError {α : Type} (message : Value) (level : Int64) : Task α := do
  match message with
  | .string m =>
    if 0 < level then Task.raise (.string ((← whereText level.toInt.toNat) ++ m))
    else Task.raise message
  | v => Task.raise v

def error (args : List Value) : Task (List Value) := do
  let level ← optInt args 2 1
  raiseError (argument args 1) level

def assert (args : List Value) : Task (List Value) := do
  if (argument args 1).isTruthy then return args
  else
    checkAny args 1
    raiseError ((given args 2).getD (.text "assertion failed!")) 1

def collectGarbage (args : List Value) : Task (List Value) := do
  let option ← optString args 1 (bytes "collect")
  if option == bytes "count" then return [.float (Double.ofNat 32)]
  else if option == bytes "step" || option == bytes "isrunning" then return flag true
  else if option == bytes "incremental" || option == bytes "generational" then
    return [.text "incremental"]
  else if ["collect", "stop", "restart", "param"].any fun o => option == bytes o then return [.int 0]
  else Task.badArgument 1 (bytes "invalid option '" ++ option ++ bytes "'")

def getMetatable (args : List Value) : Task (List Value) := do
  checkAny args 1
  let s ← Task.store
  let v := argument args 1
  match s.metafield v (bytes "__metatable") with
  | .nil => return [((s.metatable? v).map Value.table).getD .nil]
  | protected_ => return [protected_]

def setMetatable (args : List Value) : Task (List Value) := do
  let id ← checkTable args 1
  let metatable ← match given args 2 with
    | some .nil => pure none
    | some (.table m) => pure (some m)
    | _ => typeError args 2 "nil or table"
  let s ← Task.store
  if (s.metafield (.table id) (bytes "__metatable")).isNil then
    Task.modifyStore fun s => s.updateTable id fun t => { t with metatable }
    return [.table id]
  else Task.failText "cannot change a protected metatable"

def ipairsStep (args : List Value) : Task (List Value) := do
  let i := (← checkInt args 2) + 1
  match ← Task.index (argument args 1) (.int i) with
  | .nil => return [.nil]
  | v => return [.int i, v]

def ipairs (args : List Value) : Task (List Value) := do
  checkAny args 1
  return [.native .ipairsStep, argument args 1, .int 0]

def next (args : List Value) : Task (List Value) := do
  let id ← checkTable args 1
  let s ← Task.store
  match (s.table id).next (argument args 2) with
  | .entry k v => return [k, v]
  | .done => return [.nil]
  | .unknownKey => Task.raise (.text "invalid key to 'next'")

def pairs (args : List Value) : Task (List Value) := do
  checkAny args 1
  let s ← Task.store
  let v := argument args 1
  match s.metafield v (bytes "__pairs") with
  | .nil => return [.native .next, v, .nil]
  | f => return adjust 3 (← Task.call f [v])

def pcall (args : List Value) : Task (List Value) := do
  checkAny args 1
  match ← Task.guarded (argument args 1) (args.drop 1) none with
  | .ok vs => return .bool true :: vs
  | .error e => return [.bool false, e]

def xpcall (args : List Value) : Task (List Value) := do
  let handler ← checkFunction args 2
  match ← Task.guarded (argument args 1) (args.drop 2) (some handler) with
  | .ok vs => return .bool true :: vs
  | .error e => return [.bool false, e]

def textsOf : List Value → Task (List Bytes)
  | [] => return []
  | v :: rest => do
    let t ← textOf v
    return t :: (← textsOf rest)

def print (args : List Value) : Task (List Value) := do
  let _ ← textsOf args
  return []

def rawEqualFunction (args : List Value) : Task (List Value) := do
  checkAny args 1
  checkAny args 2
  return flag (rawEqual (argument args 1) (argument args 2))

def rawGet (args : List Value) : Task (List Value) := do
  let id ← checkTable args 1
  checkAny args 2
  return [(← Task.store).rawGet id (argument args 2)]

def rawLen (args : List Value) : Task (List Value) := do
  match argument args 1 with
  | .table id => return [whole ((← Task.store).table id).length]
  | .string s => return [whole s.length]
  | _ => typeError args 1 "table or string"

def rawSet (args : List Value) : Task (List Value) := do
  let id ← checkTable args 1
  checkAny args 2
  checkAny args 3
  Task.assignRaw id (argument args 2) (argument args 3)
  return [.table id]

def select (args : List Value) : Task (List Value) := do
  match argument args 1 with
  | .string [35] => return [whole (args.length - 1)]
  | _ =>
    let i := (← checkInt args 1).toInt
    let count : Int := args.length - 1
    if i < 0 then
      if -i ≤ count then return args.drop (count + i + 1).toNat
      else badValue 1 "index out of range"
    else if i = 0 then badValue 1 "index out of range"
    else return (args.drop 1).drop (i - 1).toNat

def alphanumericValue? (b : UInt8) : Option Nat :=
  if isDigit b then some (b.toNat - 48)
  else if 97 ≤ b && b ≤ 122 then some (b.toNat - 87)
  else if 65 ≤ b && b ≤ 90 then some (b.toNat - 55)
  else none

/-- The integer that a text denotes in a base; it wraps around. -/
def inBase? (base : Nat) (s : Bytes) : Option Int64 :=
  let (negative, ds) := match trimSpaces s with
    | 45 :: rest => (true, rest)
    | rest => (false, rest)
  if ds.isEmpty then none
  else (ds.mapM fun b => (alphanumericValue? b).filter (· < base)).map fun vs =>
    let i := Int64.ofNat (Text.digitsValue base vs)
    if negative then -i else i

def toNumber (args : List Value) : Task (List Value) := do
  if isAbsent args 2 then
    match argument args 1 with
    | .int i => return [.int i]
    | .float x => return [.float x]
    | .string s => return [(number? s).getD .nil]
    | _ =>
      checkAny args 1
      return [.nil]
  else
    let base := (← checkInt args 2).toInt
    match argument args 1 with
    | .string s =>
      if base < 2 || 36 < base then badValue 2 "base out of range"
      else return [((inBase? base.toNat s).map Value.int).getD .nil]
    | _ => typeError args 1 "string"

def toString (args : List Value) : Task (List Value) := do
  checkAny args 1
  return [.string (← textOf (argument args 1))]

def type (args : List Value) : Task (List Value) := do
  checkAny args 1
  return [.text (argument args 1).typeName]

/-- The function of a source text, with the given environment. -/
def loadText (source text : Bytes) (mode : Bytes) (env : Value) : Task (List Value) := do
  let refuse (message : Bytes) : List Value := [.nil, .string message]
  let binary := text.head? == some 27
  if binary && !mode.contains 98 then
    return refuse (bytes "attempt to load a binary chunk (mode is '" ++ mode ++ bytes "')")
  else if binary then
    return refuse (shortSource source ++ bytes ": bad binary format (truncated chunk)")
  else if !mode.contains 116 then
    return refuse (bytes "attempt to load a text chunk (mode is '" ++ mode ++ bytes "')")
  else match compile source text with
    | .error f => return refuse (f.text source)
    | .ok chunk =>
      let (s, cell) := (← Task.store).addCell env
      let (s, id) := s.addClosure { chunk, index := 0, upvalues := #[cell] }
      Task.setStore s
      return [.closure id]

/-- The pieces that a function yields until it has no more; `fuel` bounds their number. -/
def readPieces (f : Value) : (fuel : Nat) → Task (Except Value Bytes)
  | 0 => return .ok []
  | fuel + 1 => do
    match first (← Task.call f []) with
    | .nil => return .ok []
    | .string [] => return .ok []
    | v => match stringText? v with
      | some piece => match ← readPieces f fuel with
        | .ok rest => return .ok (piece ++ rest)
        | .error e => return .error e
      | none => return .error (.text "reader function must return a string")

def cString (s : Bytes) : Bytes := s.takeWhile (· != 0)

def load (args : List Value) : Task (List Value) := do
  let mode := cString (← optString args 3 (bytes "bt"))
  let s ← Task.store
  let env := match given args 4 with
    | some v => v
    | none => .table s.globals
  match stringText? (argument args 1) with
  | some text =>
    let name := cString (← optString args 2 text)
    loadText name text mode env
  | none =>
    let name := cString (← optString args 2 (bytes "=(load)"))
    let f ← checkFunction args 1
    match ← readPieces f 1000000 with
    | .ok text => loadText name text mode env
    | .error e => return [.nil, e]

/-- No file can be read from a script. -/
def loadFile (args : List Value) : Task (List Value) := do
  let name ← optString args 1 (bytes "stdin")
  return [.nil, .string (bytes "cannot open " ++ name)]

def doFile (args : List Value) : Task (List Value) := do
  let name ← optString args 1 (bytes "stdin")
  Task.raise (.string (bytes "cannot open " ++ name))

def require (args : List Value) : Task (List Value) := do
  let name ← checkString args 1
  let s ← Task.store
  match s.rawGet s.loaded (.string name) with
  | .nil => Task.fail (bytes "module '" ++ name ++ bytes "' not found:\n\tno field package.preload['"
      ++ name ++ bytes "']")
  | v => return [v]

end KernelConfig.Script.Library
