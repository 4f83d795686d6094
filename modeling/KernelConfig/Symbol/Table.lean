import KernelConfig.Dotconfig.Line
import KernelConfig.Symbol.Basic

/-!
Symbol tables: symbols in the order of their declaration, and the variables that scripts may ask for.
-/

set_option autoImplicit false

namespace KernelConfig

structure SymbolTable where
  symbols : List Symbol := []
  env : List (String × String) := []
  deriving DecidableEq, Repr, Inhabited

namespace SymbolTable

def symbol? (t : SymbolTable) (name : String) : Option Symbol :=
  t.symbols.find? (·.name = name)

def contains (t : SymbolTable) (name : String) : Bool := t.symbols.any (·.name = name)

def names (t : SymbolTable) : List String := t.symbols.map (·.name)

/-- Adds a symbol; one of the same name gives up its place to it. -/
def declare (t : SymbolTable) (s : Symbol) : SymbolTable :=
  if t.contains s.name then
    { t with symbols := t.symbols.map fun old => if old.name = s.name then s else old }
  else { t with symbols := t.symbols ++ [s] }

/-- Replaces the symbol of the same name. -/
def update (t : SymbolTable) (s : Symbol) : SymbolTable :=
  { t with symbols := t.symbols.map fun old => if old.name = s.name then s else old }

def set (t : SymbolTable) (s : Symbol) (v : SymbolValue) (p : Provenance) :
    Except Rejection SymbolTable :=
  (s.set v p).map t.update

def assignRaw (t : SymbolTable) (s : Symbol) (text source : String) : SymbolTable :=
  t.update (s.assignRaw text source)

def reset (t : SymbolTable) : SymbolTable := { t with symbols := t.symbols.map Symbol.reset }

def env? (t : SymbolTable) (name : String) : Option String :=
  (t.env.find? (·.1 = name)).map (·.2)

/-- The current text of every symbol. -/
def snapshot (t : SymbolTable) : List (String × String) := t.symbols.map fun s => (s.name, s.text)

/-- The line that assigns a symbol's value, if it has one. -/
def dumpLine (lead : String) (s : Symbol) : Option String :=
  if s.value.isNone then none
  else if s.type.isSwitch && s.text = "n" then some ("# " ++ lead ++ s.name ++ " is not set")
  else if s.type = .string then some (lead ++ s.name ++ "=" ++ Dotconfig.quoteText s.text)
  else some (lead ++ s.name ++ "=" ++ s.text)

/-- The configuration file that assigns every value of the table. -/
def dump (t : SymbolTable) (lead : String) : String :=
  String.join ((t.symbols.filterMap (dumpLine lead)).map (· ++ "\n"))

end SymbolTable

/-- The names of types in declarations, with whether numbers are written in hexadecimal. -/
def typeNames : List (String × SymbolType × Bool) :=
  [("bool", .boolean, false), ("boolean", .boolean, false), ("tristate", .tristate, false),
    ("int", .number, false), ("number", .number, false), ("hex", .number, true),
    ("string", .string, false), ("auto", .auto, false)]

def typeOfName? (name : String) : Option (SymbolType × Bool) :=
  (typeNames.find? (·.1 = name)).map (·.2)

/-- A symbol's declared type, by name or given outright. -/
inductive TypeChoice where
  | named (name : String)
  | given (type : SymbolType)
  deriving DecidableEq, Repr

/-- Type names are read in any case. -/
def TypeChoice.resolve : TypeChoice → Except Mishap (SymbolType × Bool)
  | given type => .ok (type, false)
  | named name => match typeOfName? (Text.lower name) with
    | some r => .ok r
    | none => .error (.missingKey (Text.lower name))

namespace SymbolTable

/-- A table of fresh symbols. -/
def ofTypes (env : List (String × String)) : List (String × TypeChoice) → Except Mishap SymbolTable
  | [] => .ok { env }
  | (name, choice) :: rest => match choice.resolve, ofTypes env rest with
    | .ok (type, hex), .ok t => .ok { t with symbols := { name, type, hex } :: t.symbols }
    | .error m, _ => .error m
    | _, .error m => .error m

end SymbolTable

end KernelConfig
