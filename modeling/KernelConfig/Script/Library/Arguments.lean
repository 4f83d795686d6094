import KernelConfig.Script.Task

/-!
Arguments of library functions: what they must be, and the messages when they are not.
-/

set_option autoImplicit false

namespace KernelConfig.Script.Library

/-- The argument of a number, counted from one, if it was given. -/
def given (args : List Value) (n : Nat) : Option Value := args[n - 1]?

def argument (args : List Value) (n : Nat) : Value := (given args n).getD .nil

def isAbsent (args : List Value) (n : Nat) : Bool := (argument args n).isNil

def typeError {α : Type} (args : List Value) (n : Nat) (expected : String) : Task α := do
  let s ← Task.store
  let got := match given args n with
    | none => bytes "no value"
    | some v => s.typeNameOf v
  Task.badArgument n (bytes (expected ++ " expected, got ") ++ got)

def badValue {α : Type} (n : Nat) (message : String) : Task α := Task.badArgument n (bytes message)

def checkAny (args : List Value) (n : Nat) : Task Unit :=
  if (given args n).isNone then badValue n "value expected" else return ()

/-- A string, or the text of a number. -/
def checkString (args : List Value) (n : Nat) : Task Bytes :=
  match stringText? (argument args n) with
  | some s => return s
  | none => typeError args n "string"

def checkInt (args : List Value) (n : Nat) : Task Int64 :=
  match toNumber? (argument args n) with
  | none => typeError args n "number"
  | some v => match numberToInt? v with
    | some i => return i
    | none => badValue n "number has no integer representation"

/-- A number, which may be given as a string. -/
def checkNumber (args : List Value) (n : Nat) : Task Value :=
  match toNumber? (argument args n) with
  | some v => return v
  | none => typeError args n "number"

def checkFloat (args : List Value) (n : Nat) : Task Double := do
  return (toFloat? (← checkNumber args n)).getD Double.zero

def checkTable (args : List Value) (n : Nat) : Task Nat :=
  match argument args n with
  | .table id => return id
  | _ => typeError args n "table"

def checkFunction (args : List Value) (n : Nat) : Task Value :=
  let v := argument args n
  if v.isFunction then return v else typeError args n "function"

def checkThread (args : List Value) (n : Nat) : Task Nat :=
  match argument args n with
  | .thread id => return id
  | _ => typeError args n "coroutine"

def optInt (args : List Value) (n : Nat) (default : Int64) : Task Int64 :=
  if isAbsent args n then return default else checkInt args n

def optString (args : List Value) (n : Nat) (default : Bytes) : Task Bytes :=
  if isAbsent args n then return default else checkString args n

def flag (b : Bool) : List Value := [.bool b]

def whole (n : Nat) : Value := .int (Int64.ofNat n)

/-- The address that a reference shows: a number of its own. -/
def address (kind id : Nat) : String :=
  "0x" ++ String.ofList (Text.paddedHex 14 (0x55d000000000 + kind * 0x10000000 + id * 32))

def referenceText (kind : String) (v : Value) : Bytes :=
  let place := match v with
    | .table id => address 1 id
    | .closure id => address 2 id
    | .thread id => address 3 id
    | .native fn => address 4 fn.ctorIdx
    | _ => address 5 0
  bytes (kind ++ ": " ++ place)

/-- The text of a value; its metatable may have its say. -/
def textOf (v : Value) : Task Bytes := do
  let s ← Task.store
  match s.metafield v (bytes "__tostring") with
  | .nil => match v with
    | .nil => return bytes "nil"
    | .bool b => return bytes (if b then "true" else "false")
    | .int i => return bytes (intText i)
    | .float x => return bytes (floatText x)
    | .string t => return t
    | .host (.failure m) => return bytes m.message
    | .host (.function name) => return bytes ("<function " ++ name ++ ">")
    | v =>
      let kind := (Text.decodeUtf8Lossy (s.typeNameOf v))
      return referenceText kind v
  | f => match stringText? (first (← Task.call f [v])) with
    | some t => return t
    | none => Task.failText "'__tostring' must return a string"

/-- The name under which a function can be reached from the loaded libraries. -/
def globalName (s : Store) (f : Value) : Option Bytes :=
  let entries (id : Nat) : List (Bytes × Value) :=
    (s.table id).slots.toList.filterMap fun (k, slot) => match k with
      | .string name => some (name, slot.value)
      | _ => none
  let found := (entries s.loaded).findSome? fun (lib, v) =>
    if v == f then some lib
    else match v with
      | .table id => ((entries id).find? fun e => rawEqual e.2 f).map fun e => lib ++ bytes "." ++ e.1
      | _ => none
  found.map fun name => match name with
    | 95 :: 71 :: 46 :: rest => rest
    | name => name

end KernelConfig.Script.Library
