import KernelConfig.Apply.Declarative

/-!
Capabilities: the functions by which a script reads and sets symbols and applies other sources. A
value that a symbol does not take is an answer like any other; what cannot be understood at all, and
an unknown symbol, are faults.
-/

set_option autoImplicit false

namespace KernelConfig

namespace Capability

/-- The name under which scripts know a capability. -/
def guestName : Capability → String
  | setAuto => "symbol_set_auto"
  | setBool => "symbol_set_bool"
  | setNumber => "symbol_set_number"
  | setTristate => "symbol_set_tristate"
  | getString => "symbol_get_string"
  | getType => "symbol_get_type"
  | setAny => "symbol_set"
  | load => "load_kconfig"

/-- The name that messages about arguments give a capability. -/
def methodName : Capability → String
  | setAuto => "set_auto"
  | setBool => "set_bool"
  | setNumber => "set_number"
  | setTristate => "set_tristate"
  | getString => "get_string"
  | getType => "get_type"
  | setAny => "set_any"
  | load => "load_kconfig"

/-- The members of the script's table of capabilities. -/
def members : List Capability := [setAuto, setBool, setNumber, setTristate, getString, getType]

def all : List Capability := members ++ [setAny, load]

def ofGuestName? (name : String) : Option Capability := all.find? (·.guestName = name)

/-- How many arguments a capability takes. -/
def parameters : Capability → Nat
  | getString | getType => 1
  | load => 2
  | _ => 4

def tooManyArguments (c : Capability) (given : Nat) : Mishap :=
  .arguments ("CapabilityApi." ++ c.methodName ++ "() takes from 1 to "
    ++ Text.decimal (c.parameters + 1) ++ " positional arguments but " ++ Text.decimal (given + 1)
    ++ " were given")

end Capability

/-- Applies the source at a path, without checks if told so. -/
abbrev Loader := Files.Path → (nocheck : Bool) → Apply Unit

/-- The script on whose behalf a capability is used. -/
structure Caller where
  source : String
  depth : Int := 0
  /-- How it applies other sources, unless it is nested too deep for that. -/
  loader : Option Loader

def Datum.asText? : Datum → Option String
  | text s => some s
  | tristate t => some t.text
  | _ => none

namespace Apply

def textArgument (what : String) (d : Datum) : Apply String :=
  match d.asText? with
  | some s => return s
  | none => fail (ConversionFault.notAText what d).fault

def converted {α : Type} (r : Except ConversionFault α) : Apply α :=
  match r with
  | .ok a => return a
  | .error f => fail f.fault

def symbol (w : Surroundings) (c : Caller) (name : Datum) : Apply Symbol := do
  let name ← textArgument "symbol name" name
  match (← table).symbol? name with
  | some s => return s
  | none =>
    let f := ((Fault.of .unknownSymbol ("Unknown symbol: " ++ name)).withSymbol name).withSource
      c.source
    fail { f with fatal := w.settings.strictSymbols }

/-- Sets a symbol; a refusal is an answer. -/
def assign (c : Caller) (s : Symbol) (v : SymbolValue) (source traceback : Datum) :
    Apply (List Datum) := do
  let origin := source.asText?.getD c.source
  match (← table).set s v ⟨origin, traceback.asText?⟩ with
  | .ok t =>
    setTable t
    return [.bool true]
  | .error r =>
    log .warning "symbol.set.rejected"
      [("symbol", .text s.name), ("reason", .text r.message), ("origin", .text origin)]
    return [.bool false, .text r.message]

/-- The path that a script means: relative ones start where the script itself is. -/
def targetPath (source : String) (path : Files.Path) : Files.Path :=
  if source.startsWith "<" then path else (Files.Path.ofString source).parent.join path

def loadFrom (w : Surroundings) (c : Caller) (path nocheck : Datum) : Apply (List Datum) := do
  let target := targetPath c.source (.ofString (← textArgument "path" path))
  match c.loader with
  | none =>
    fail (Fault.of .configLoad ("cannot load " ++ target.toString ++ ": nesting deeper than "
      ++ Text.signedDecimal w.settings.maxLoadDepth ++ " sources"))
  | some load =>
    log .info "config.load.nested"
      [("path", .text target.toString), ("nocheck", .bool nocheck.isTruthy),
        ("depth", .int (c.depth + 1))]
    onFault (load target nocheck.isTruthy) fun f =>
      if f.fatal then fail f
      else fail ((Fault.of .configLoad ("load_kconfig(" ++ target.toString ++ ") failed: "
        ++ f.message)).causedBy f.message)
    return [.bool true]

/-- Uses a capability; the results are what the script gets besides the note that all went well. -/
def use (w : Surroundings) (c : Caller) (what : Capability) (arguments : List Datum) :
    Apply (List Datum) := do
  if what.parameters < arguments.length then
    throw (.mishap (what.tooManyArguments arguments.length))
  let argument (n : Nat) : Datum := arguments.getD n .null
  let set (s : Symbol) (v : SymbolValue) : Apply (List Datum) :=
    assign c s v (argument 2) (argument 3)
  let value := argument 1
  match what with
  | .load => loadFrom w c (argument 0) value
  | .getString => return [.text (← symbol w c (argument 0)).text]
  | .getType => return [.text (← symbol w c (argument 0)).type.name]
  | .setAuto =>
    let s ← symbol w c (argument 0)
    set s (.auto (← textArgument "value" value))
  | .setBool =>
    let s ← symbol w c (argument 0)
    match value with
    | .bool b => set s (.bool b)
    | d => fail (ConversionFault.notABoolean s.name d).fault
  | .setNumber =>
    let s ← symbol w c (argument 0)
    set s (.number (← converted (numberOfDatum value)))
  | .setTristate =>
    let s ← symbol w c (argument 0)
    set s (.tristate (← converted (Tristate.ofDatum value)))
  | .setAny =>
    let s ← symbol w c (argument 0)
    set s (← converted (SymbolValue.ofDatum value s.type))

/-- Uses a capability and notes it in the journal. -/
def used (w : Surroundings) (c : Caller) (what : Capability) (arguments : List Datum) :
    Apply (List Datum) := fun s =>
  let (r, s) := use w c what arguments s
  (r, s.note (.used c.depth what arguments r))

end Apply

end KernelConfig
