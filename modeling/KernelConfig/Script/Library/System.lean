import KernelConfig.Script.Library.Base

/-!
Functions that reach beyond the script. A script sees variables of the environment and the time it
has used; its clock stands at the epoch, and no file and no program can be reached.
-/

set_option autoImplicit false

namespace KernelConfig.Script.Library

/-- How many instructions make up a second. -/
def ticksPerSecond : Nat := 50000000

def osClock : Task (List Value) := do
  return [.float (Double.ofRatio (← Task.ticks) ticksPerSecond)]

def osDate (args : List Value) : Task (List Value) := do
  let _ ← optString args 1 (bytes "%c")
  return [.text "Thu Jan  1 00:00:00 1970"]

def osDifftime (args : List Value) : Task (List Value) := do
  let a ← checkFloat args 1
  let b ← checkFloat args 2
  return [.float (a.sub b)]

/-- How many days a date lies after the epoch. -/
def daysFromEpoch (year month day : Int) : Int :=
  let y := year + (month - 1).fdiv 12
  let m := (month - 1).fmod 12 + 1
  let y := if m ≤ 2 then y - 1 else y
  let era := y.fdiv 400
  let yearOfEra := y - era * 400
  let dayOfYear := (153 * (if m > 2 then m - 3 else m + 9) + 2) / 5 + day - 1
  era * 146097 + yearOfEra * 365 + yearOfEra / 4 - yearOfEra / 100 + dayOfYear - 719468

def dateField (t : Value) (name : String) (default : Option Int) : Task Int := do
  match toInt? (← Task.index t (.text name)), default with
  | some i, _ => return i.toInt
  | none, some d => return d
  | none, none => Task.failText ("field '" ++ name ++ "' missing in date table")

def osTime (args : List Value) : Task (List Value) := do
  if isAbsent args 1 then return [.int 0]
  else
    let t := Value.table (← checkTable args 1)
    let year ← dateField t "year" none
    let month ← dateField t "month" none
    let day ← dateField t "day" none
    let hour ← dateField t "hour" (some 12)
    let min ← dateField t "min" (some 0)
    let sec ← dateField t "sec" (some 0)
    return [.int (Int64.ofInt (((daysFromEpoch year month day * 24 + hour) * 60 + min) * 60 + sec))]

def osGetenv (args : List Value) : Task (List Value) := do
  let name := cString (← checkString args 1)
  match Text.decodeUtf8 name with
  | .error _ => return [.nil]
  | .ok name => return [((← Task.processVariable name).map Value.text).getD .nil]

def osSetlocale (args : List Value) : Task (List Value) := do
  let name ← optString args 1 (bytes "C")
  return [if name.isEmpty || name == bytes "C" || name == bytes "POSIX" then .text "C" else .nil]

def noSuchFile (args : List Value) : Task (List Value) := do
  let name ← checkString args 1
  return [.nil, .string (name ++ bytes ": No such file or directory"), .int 2]

def unavailable (name : String) : Task (List Value) :=
  Task.failText ("'" ++ name ++ "' not supported")

/-- A function that takes its arguments and answers with nothing. -/
def silent : Task (List Value) := return [.nil]

def searchPath (args : List Value) : Task (List Value) := do
  let _ ← checkString args 1
  let path ← checkString args 2
  return [.nil, .string (bytes "no file '" ++ path ++ bytes "'")]

end KernelConfig.Script.Library
