/-!
Command lines: options, long and short, among the words of a command. Short options may stand
together behind one dash, and a value may follow its option directly or as the next argument.
-/

set_option autoImplicit false

namespace KernelConfig.Command

structure Switch where
  names : List String
  takesValue : Bool
  deriving DecidableEq, Repr

/-- A switch that was given, with its value. -/
structure Given where
  switch : Switch
  value : String
  deriving DecidableEq, Repr

/-- What has been given, in order, and the words between. -/
structure Arguments where
  given : List Given := []
  words : List String := []
  deriving DecidableEq, Repr

inductive UsageFault where
  | unknownOption (name : String)
  | missingValue (name : String)
  | unexpectedValue (name : String)
  | missingWord (name : String)
  | extraWords (words : List String)
  | missingOption (name : String)
  | noSuchFile (path : String)
  | noCommand
  | unknownCommand (name : String)
  deriving DecidableEq, Repr

def UsageFault.message : UsageFault → String
  | unknownOption name => "no such option: " ++ name
  | missingValue name => "option " ++ name ++ " requires an argument"
  | unexpectedValue name => "option " ++ name ++ " does not take a value"
  | missingWord name => "missing argument " ++ name
  | extraWords words => "unexpected extra arguments: " ++ " ".intercalate words
  | missingOption name => "missing option " ++ name
  | noSuchFile path => "no such file: " ++ path
  | noCommand => "missing command"
  | unknownCommand name => "no such command: " ++ name

namespace Arguments

/-- The value of the last of the given switches with a name. -/
def value? (a : Arguments) (name : String) : Option String :=
  (a.given.reverse.find? (·.switch.names.contains name)).map (·.value)

def has (a : Arguments) (name : String) : Bool := (a.value? name).isSome

end Arguments

def switch? (switches : List Switch) (name : String) : Option Switch :=
  switches.find? (·.names.contains name)

/-- A value that is attached to an option, or the next argument. -/
def valueOf (name : String) (attached : Option String) (rest : List String) :
    Except UsageFault (String × List String) :=
  match attached, rest with
  | some v, rest => .ok (v, rest)
  | none, v :: rest => .ok (v, rest)
  | none, [] => .error (.missingValue name)

/-- The switches behind one dash; the value of the last one may follow it directly. -/
def shortSwitches (switches : List Switch) (rest : List String) :
    List Char → Except UsageFault (List Given × List String)
  | [] => .ok ([], rest)
  | c :: cs =>
    let name := String.ofList ['-', c]
    match switch? switches name with
    | none => .error (.unknownOption name)
    | some s =>
      if s.takesValue then do
        let attached := if cs.isEmpty then none else some (String.ofList cs)
        let (v, rest) ← valueOf name attached rest
        return ([⟨s, v⟩], rest)
      else do
        let (given, rest) ← shortSwitches switches rest cs
        return (⟨s, ""⟩ :: given, rest)

/-- The switches that one argument gives. -/
def switchesOf (switches : List Switch) (argument : String) (rest : List String) :
    Except UsageFault (List Given × List String) :=
  let chars := argument.toList
  let name := String.ofList (chars.takeWhile (· ≠ '='))
  let attached := match chars.dropWhile (· ≠ '=') with
    | [] => none
    | _ :: v => some (String.ofList v)
  let long := "--".toList.isPrefixOf chars
  match if long then switch? switches name else none with
  | some s =>
    if s.takesValue then do
      let (v, rest) ← valueOf name attached rest
      return ([⟨s, v⟩], rest)
    else if attached.isSome then .error (.unexpectedValue name)
    else .ok ([⟨s, ""⟩], rest)
  | none =>
    if long then .error (.unknownOption name) else shortSwitches switches rest (chars.drop 1)

def isOption (argument : String) : Bool :=
  match argument.toList with
  | '-' :: _ :: _ => true
  | _ => false

/-- Reads arguments; without `interspersed` the first word ends the options. -/
def readFrom (switches : List Switch) (interspersed : Bool) (a : Arguments) :
    (fuel : Nat) → List String → Except UsageFault Arguments
  | 0, rest => .ok { a with words := a.words ++ rest }
  | _, [] => .ok a
  | fuel + 1, argument :: rest =>
    if argument = "--" then .ok { a with words := a.words ++ rest }
    else if isOption argument then do
      let (given, rest) ← switchesOf switches argument rest
      readFrom switches interspersed { a with given := a.given ++ given } fuel rest
    else if interspersed then
      readFrom switches interspersed { a with words := a.words ++ [argument] } fuel rest
    else .ok { a with words := a.words ++ argument :: rest }

def read (switches : List Switch) (interspersed : Bool) (arguments : List String) :
    Except UsageFault Arguments :=
  readFrom switches interspersed {} arguments.length arguments

end KernelConfig.Command
