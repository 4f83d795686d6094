import KernelConfig.Fault.Basic

/-!
Values of the scripting language. Tables, functions and threads are references into a store; strings
are bytes.
-/

set_option autoImplicit false

namespace KernelConfig.Script

/-- The bytes of a text. -/
def bytes (s : String) : Bytes := Text.utf8 s

/-- What the host hands to a script: functions, by name, and failures of the host's own. -/
inductive HostObject where
  | function (name : String)
  | failure (m : Mishap)
  deriving DecidableEq, Repr

/-- Functions of the language's library. -/
inductive Native where
  | assert | collectgarbage | dofile | error | getmetatable | ipairs | ipairsStep | load | loadfile
  | next | pairs | pcall | print | rawequal | rawget | rawlen | rawset | require | select
  | setmetatable | tonumber | tostring | type | warn | xpcall
  | stringByte | stringChar | stringDump | stringFind | stringFormat | stringGmatch | stringGsub
  | stringLen | stringLower | stringMatch | stringRep | stringReverse | stringSub | stringUpper
  | stringAdd | stringSubtract | stringMul | stringMod | stringPow | stringDiv | stringIdiv | stringUnm
  | gmatchStep (source pattern : Bytes) (cell : Nat)
  | tableConcat | tableCreate | tableInsert | tableMove | tablePack | tableRemove | tableSort
  | tableUnpack
  | mathAbs | mathAcos | mathAsin | mathAtan | mathCeil | mathCos | mathDeg | mathExp | mathFloor
  | mathFmod | mathFrexp | mathLdexp | mathLog | mathMax | mathMin | mathModf | mathRad | mathRandom
  | mathRandomseed | mathSin | mathSqrt | mathTan | mathTointeger | mathType | mathUlt
  | utf8Char | utf8Codepoint | utf8Codes | utf8CodesStep (lax : Bool) | utf8Len | utf8Offset
  | coroutineClose | coroutineCreate | coroutineIsyieldable | coroutineResume | coroutineRunning
  | coroutineStatus | coroutineWrap | coroutineYield
  | wrapped (thread : Nat)
  | debugDebug | debugGethook | debugGetinfo | debugGetlocal | debugGetmetatable | debugGetregistry
  | debugGetupvalue | debugGetuservalue | debugSethook | debugSetlocal | debugSetmetatable
  | debugSetupvalue | debugSetuservalue | debugTraceback | debugUpvalueid | debugUpvaluejoin
  | osClock | osDate | osDifftime | osExecute | osExit | osGetenv | osRemove | osRename | osSetlocale
  | osTime | osTmpname
  | ioClose | ioFlush | ioInput | ioLines | ioOpen | ioOutput | ioPopen | ioRead | ioTmpfile | ioType
  | ioWrite
  | packageLoadlib | packageSearchpath
  deriving DecidableEq, Repr

inductive Value where
  | nil
  | bool (b : Bool)
  | int (i : Int64)
  | float (x : Double)
  | string (s : Bytes)
  | table (id : Nat)
  | closure (id : Nat)
  | native (fn : Native)
  | thread (id : Nat)
  | host (object : HostObject)
  deriving DecidableEq, Repr, Inhabited

namespace Value

def text (s : String) : Value := string (bytes s)

def isTruthy : Value → Bool
  | nil => false
  | bool b => b
  | _ => true

def isNil : Value → Bool
  | nil => true
  | _ => false

def isFunction : Value → Bool
  | closure _ | native _ => true
  | _ => false

def typeName : Value → String
  | nil => "nil"
  | bool _ => "boolean"
  | int _ | float _ => "number"
  | string _ => "string"
  | table _ => "table"
  | closure _ | native _ => "function"
  | thread _ => "thread"
  | host _ => "userdata"

end Value

/-- The first of some values, nil if there is none. -/
def first (vs : List Value) : Value := vs.headD .nil

/-- Exactly `n` values: more are dropped, missing ones are nil. -/
def adjust : (n : Nat) → List Value → List Value
  | 0, _ => []
  | n + 1, [] => .nil :: adjust n []
  | n + 1, v :: rest => v :: adjust n rest

end KernelConfig.Script
