import KernelConfig.Fault.Shape
import KernelConfig.Text.Utf8
import KernelConfig.Value.Fields

/-!
Faults: what is reported when a symbol, a value, a source or a script is refused. A fatal fault
ends the whole apply, whatever the script does about it.
-/

set_option autoImplicit false

namespace KernelConfig

/-- The layer that a fault belongs to. -/
inductive Category where
  | symbol
  | value
  | source
  | script
  | config
  | internal
  | unknown
  deriving DecidableEq, Repr

def Category.name : Category → String
  | symbol => "SYMBOL"
  | value => "VALUE"
  | source => "SOURCE"
  | script => "SCRIPT"
  | config => "CONFIG"
  | internal => "INTERNAL"
  | unknown => "UNKNOWN"

def Category.ofName? (s : String) : Option Category :=
  [symbol, value, source, script, config, internal, unknown].find? (·.name = s)

inductive FaultKind where
  | general
  | unknownSymbol
  | valueConversion
  | tristateParse
  | numberRange
  | symbolRejected
  | configLoad
  | script
  | scriptTimeout
  | symbolFile
  | internalBridge
  | namespaceClash
  deriving DecidableEq, Repr

namespace FaultKind

def all : List FaultKind :=
  [general, unknownSymbol, valueConversion, tristateParse, numberRange, symbolRejected, configLoad,
    script, scriptTimeout, symbolFile, internalBridge, namespaceClash]

def name : FaultKind → String
  | general => "AutokernelError"
  | unknownSymbol => "UnknownSymbolError"
  | valueConversion => "ValueConversionError"
  | tristateParse => "TristateParseError"
  | numberRange => "NumberRangeError"
  | symbolRejected => "SymbolRejectedError"
  | configLoad => "ConfigLoadError"
  | script => "ScriptError"
  | scriptTimeout => "ScriptTimeoutError"
  | symbolFile => "SymbolFileError"
  | internalBridge => "InternalBridgeError"
  | namespaceClash => "NamespaceError"

def ofName? (s : String) : Option FaultKind := all.find? (·.name = s)

/-- The kinds that a kind belongs to, from itself to the most general one. -/
def lineage : FaultKind → List FaultKind
  | general => [general]
  | tristateParse => [tristateParse, valueConversion, general]
  | numberRange => [numberRange, valueConversion, general]
  | scriptTimeout => [scriptTimeout, script, general]
  | namespaceClash => [namespaceClash, internalBridge, general]
  | k => [k, general]

def category : FaultKind → Category
  | general | internalBridge | namespaceClash => .internal
  | unknownSymbol => .symbol
  | valueConversion | tristateParse | numberRange | symbolRejected => .value
  | configLoad => .source
  | script | scriptTimeout => .script
  | symbolFile => .config

def isFatal : FaultKind → Bool
  | unknownSymbol | internalBridge | namespaceClash => true
  | _ => false

/-- Faults of these kinds name the value that could not be converted. -/
def namesValue (k : FaultKind) : Bool := k.lineage.contains valueConversion

end FaultKind

/-- Where a fault happened; a null field is not known. -/
structure FaultContext where
  source : Datum := .null
  symbol : Datum := .null
  line : Datum := .null
  traceback : Datum := .null
  extra : Fields := []
  deriving BEq, Repr, Inhabited

namespace FaultContext

def set (c : FaultContext) (key : String) (d : Datum) : FaultContext :=
  if key = "source" then { c with source := d }
  else if key = "symbol" then { c with symbol := d }
  else if key = "line" then { c with line := d }
  else if key = "traceback" then { c with traceback := d }
  else { c with extra := c.extra.put key d }

/-- The known fields in order, then the others. -/
def fields (c : FaultContext) : Fields :=
  ([("source", c.source), ("symbol", c.symbol), ("line", c.line), ("traceback", c.traceback)].filter
    fun e => e.2 != .null) ++ c.extra

end FaultContext

/-- What a fault came from: a text, a declaration file that does not parse, or one whose data has the wrong shape. -/
inductive FaultOrigin where
  | text (message : String)
  | syntaxError
  | shape (faults : List ShapeFault)
  deriving DecidableEq, Repr

structure Fault where
  kind : FaultKind
  message : String
  category : Category
  fatal : Bool
  context : FaultContext
  origin : Option FaultOrigin
  value : Datum
  deriving BEq, Repr

namespace Fault

/-- A fault with what its kind implies. -/
def of (kind : FaultKind) (message : String) : Fault :=
  { kind, message, category := kind.category, fatal := kind.isFatal, context := {}, origin := none
    value := .null }

def withSource (f : Fault) (source : String) : Fault :=
  { f with context := { f.context with source := .text source } }

def withSymbol (f : Fault) (symbol : String) : Fault :=
  { f with context := { f.context with symbol := .text symbol } }

def withLine (f : Fault) (line : Nat) : Fault :=
  { f with context := { f.context with line := .int line } }

def causedBy (f : Fault) (message : String) : Fault := { f with origin := some (.text message) }

def describe (f : Fault) : String :=
  f.kind.name ++ "(" ++ Text.quoted f.message ++ ", category=" ++ f.category.name ++ ")"

/-- The record of a fault, as logs show it. -/
def record (f : Fault) : Fields :=
  [("error_type", .text f.kind.name), ("message", .text f.message),
    ("category", .text f.category.name), ("fatal", .bool f.fatal)]
  ++ (if f.context.fields.isEmpty then [] else [("context", .dict f.context.fields)])
  ++ (match f.origin with
    | some (.text message) => [("cause", .text message)]
    | _ => [])
  ++ (if f.value == .null then [] else [("value", .text f.value.shown)])

end Fault

/-- What goes wrong outside the rules for symbols and sources. -/
inductive Mishap where
  | undecodable (fault : Text.Utf8Fault)
  | nullInPath
  | oversizedInteger (digits : Nat)
  | missingKey (key : String)
  | notAState (text : String)
  | arguments (message : String)
  | forbiddenAttribute (shown : String)
  | unknownLevel (name : String)
  | script (message : String)
  deriving DecidableEq, Repr

namespace Mishap

def name : Mishap → String
  | undecodable _ => "UnicodeDecodeError"
  | nullInPath | oversizedInteger _ | notAState _ => "ValueError"
  | missingKey _ => "KeyError"
  | arguments _ => "TypeError"
  | forbiddenAttribute _ | unknownLevel _ => "AttributeError"
  | script _ => "LuaError"

def message : Mishap → String
  | undecodable f => f.message
  | nullInPath => "embedded null byte"
  | oversizedInteger digits =>
    "Exceeds the limit (4300 digits) for integer string conversion: value has "
      ++ Text.decimal digits ++ " digits; use sys.set_int_max_str_digits() to increase the limit"
  | missingKey s => Text.quoted s
  | notAState s => Text.quoted s ++ " is not a valid Tristate"
  | arguments s | script s => s
  | forbiddenAttribute s => "access to Python attribute " ++ s ++ " is not allowed"
  | unknownLevel s => "module 'logging' has no attribute " ++ Text.quoted s

end Mishap

inductive Failure where
  | fault (f : Fault)
  | mishap (m : Mishap)
  deriving BEq, Repr

namespace Failure

def message : Failure → String
  | fault f => f.message
  | mishap m => m.message

def isFatal : Failure → Bool
  | fault f => f.fatal
  | mishap _ => false

end Failure

end KernelConfig
