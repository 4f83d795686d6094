import KernelConfig.Fault.Basic
import KernelConfig.Value.Conversion

/-!
Faults built from named arguments: which arguments a kind of fault takes, and what is wrong with a
list of arguments that does not fit.
-/

set_option autoImplicit false

namespace KernelConfig

namespace FaultKind

/-- The arguments of a kind by position. -/
def positional : FaultKind → List String
  | unknownSymbol => ["name"]
  | tristateParse => ["text"]
  | symbolRejected => ["name", "message"]
  | _ => ["message"]

/-- The arguments of a kind that are given by name only. -/
def named (k : FaultKind) : List String :=
  (match k with
    | valueConversion | numberRange => ["value"]
    | script | scriptTimeout => ["source", "traceback"]
    | _ => []) ++ ["category", "fatal", "context", "cause"]

/-- The kind whose rules for arguments a kind shares. -/
def signatureOwner : FaultKind → FaultKind
  | numberRange => valueConversion
  | scriptTimeout => script
  | configLoad | symbolFile | internalBridge | namespaceClash => general
  | k => k

end FaultKind

/-- The arguments of a fault: by position, by name, and those with a meaning of their own. -/
structure FaultArguments where
  positional : List Datum := []
  named : List (String × Datum) := []
  category : Option Category := none
  context : FaultContext := {}
  origin : Option String := none

namespace FaultArguments

def namedOr (a : FaultArguments) (key : String) : Datum :=
  ((a.named.find? (·.1 = key)).map (·.2)).getD .null

def isNamed (a : FaultArguments) (key : String) : Bool := a.named.any (·.1 = key)

/-- The argument of a name, by position or by name. -/
def find (a : FaultArguments) (names : List String) (key : String) : Option Datum :=
  match names.idxOf? key with
  | some i => match a.positional[i]? with
    | some d => some d
    | none => (a.named.find? (·.1 = key)).map (·.2)
  | none => none

end FaultArguments

/-- Names in a list: the last one after "and". -/
def enumerate : List String → String
  | [] => ""
  | [a] => a
  | [a, b] => a ++ " and " ++ b
  | a :: rest => a ++ ", " ++ enumerate rest

def missingArguments (owner : FaultKind) (manner : String) (names : List String) : Mishap :=
  .arguments (owner.name ++ ".__init__() missing " ++ Text.decimal names.length ++ " required "
    ++ manner ++ (if names.length = 1 then " argument: " else " arguments: ")
    ++ enumerate (names.map Text.quoted))

/-- What does not fit about the arguments of a kind, if anything. -/
def FaultKind.misfit (k : FaultKind) (a : FaultArguments) : Option Mishap :=
  let owner := k.signatureOwner
  let names := k.positional
  let given := a.positional.length
  let missing := (names.drop given).filter fun n => !a.isNamed n
  if names.length < given then
    some (.arguments (owner.name ++ ".__init__() takes " ++ Text.decimal (names.length + 1)
      ++ " positional arguments but " ++ Text.decimal (given + 1)
      ++ (if owner = .script && (a.isNamed "source" || a.isNamed "traceback") then
          " positional arguments (and " ++
            (if a.isNamed "source" && a.isNamed "traceback" then "2 keyword-only arguments"
              else "1 keyword-only argument") ++ ") were given"
        else " were given")))
  else if !missing.isEmpty then some (missingArguments owner "positional" missing)
  else if owner = .script && !a.isNamed "source" then
    some (missingArguments owner "keyword-only" ["source"])
  else match a.named.find? fun e => !(names ++ k.named).contains e.1 with
    | some (key, _) => some (.arguments (FaultKind.general.name
        ++ ".__init__() got an unexpected keyword argument " ++ Text.quoted key))
    | none => none

/-- The fault of a kind with the given arguments. -/
def Fault.build (k : FaultKind) (a : FaultArguments) : Except Mishap Fault :=
  match k.misfit a with
  | some m => .error m
  | none =>
    let argument (key : String) := (a.find k.positional key).getD .null
    let message := match k with
      | .unknownSymbol => "Unknown symbol: " ++ (argument "name").display
      | .tristateParse => (ConversionFault.tristate (argument "text")).message
      | _ => (argument "message").display
    let context := match k with
      | .unknownSymbol | .symbolRejected => { a.context with symbol := argument "name" }
      | .script | .scriptTimeout =>
        { a.context with source := a.namedOr "source", traceback := a.namedOr "traceback" }
      | _ => a.context
    .ok {
      kind := k
      message
      category := a.category.getD k.category
      fatal := match a.namedOr "fatal" with
        | .null => k.isFatal
        | d => d.isTruthy
      context
      origin := a.origin.map .text
      value := if k = .tristateParse then argument "text" else a.namedOr "value" }

/-- The general errors of a system, by name, that belong to a layer. -/
def sourceErrorNames : List String :=
  ["OSError", "IOError", "EnvironmentError", "FileNotFoundError", "PermissionError", "TimeoutError",
    "FileExistsError", "IsADirectoryError", "NotADirectoryError", "InterruptedError",
    "BlockingIOError", "ChildProcessError", "ProcessLookupError", "ConnectionError",
    "BrokenPipeError", "ConnectionAbortedError", "ConnectionRefusedError", "ConnectionResetError"]

def valueErrorNames : List String :=
  ["ValueError", "TypeError", "UnicodeError", "UnicodeDecodeError", "UnicodeEncodeError",
    "UnicodeTranslateError"]

/-- An error of the system: its name and what it was given. -/
structure SystemError where
  name : String
  arguments : List Datum

namespace SystemError

def category (e : SystemError) : Category :=
  if sourceErrorNames.contains e.name then .source
  else if valueErrorNames.contains e.name then .value
  else if e.name = "KeyError" then .symbol
  else .unknown

/-- One argument stands for itself, a number with a text is an error number, several are a list. -/
def text (e : SystemError) : String :=
  match e.arguments with
  | [] => ""
  | [d] => if e.name = "KeyError" then d.shown else d.display
  | [number, what] =>
    if sourceErrorNames.contains e.name then "[Errno " ++ number.display ++ "] " ++ what.display
    else "(" ++ number.shown ++ ", " ++ what.shown ++ ")"
  | number :: what :: path :: rest =>
    if sourceErrorNames.contains e.name && rest.isEmpty then
      "[Errno " ++ number.display ++ "] " ++ what.display ++ ": " ++ path.shown
    else "(" ++ ", ".intercalate (Datum.shownItems e.arguments) ++ ")"

end SystemError

end KernelConfig
