import KernelConfig.Fault.Basic
import KernelConfig.Files.Tree
import KernelConfig.Settings.Basic
import KernelConfig.Settings.EnvFile
import KernelConfig.Value.Scalar

/-!
Loading settings. A setting comes from the first source that has it: values given outright, the
variables of the process, an environment file, and the default. Settings are loaded whole, or all
that is wrong with them is reported in order.
-/

set_option autoImplicit false

namespace KernelConfig

def Datum.scalar? : Datum → Option Scalar
  | .bool b => some (.bool b)
  | .int i => some (.int i)
  | .float x => some (.float x)
  | .text s => some (.text s)
  | .tristate t => some (.text t.text)
  | _ => none

/-- Why settings could not be loaded. -/
inductive SettingsFault where
  | shape (faults : List ShapeFault)
  | mishap (m : Mishap)
  deriving DecidableEq, Repr

/-- Where settings come from. -/
structure SettingsSources where
  given : Fields := []
  environment : List (String × String) := []
  envFile : List EnvFile.Binding := []

namespace SettingsSources

/-- The variable of a setting. -/
def variableName (name : String) : String := "autokernel_" ++ name

/-- Names of variables are compared in any case; the last of several counts. -/
def lastOf {α : Type} (bindings : List (String × α)) (name : String) : Option α :=
  (bindings.reverse.find? fun b => Text.lower b.1 = variableName name).map (·.2)

def find? (s : SettingsSources) (name : String) : Option Datum :=
  match s.given.get? name with
  | some d => some d
  | none => match lastOf s.environment name with
    | some v => some (.text v)
    | none => match lastOf s.envFile name with
      | some (some v) => some (.text v)
      | _ => none

end SettingsSources

namespace Settings

def text (d : Datum) : Shaped String := Shaped.of (Scalar.toText? d.scalar?)

def bool (d : Datum) : Shaped Bool := Shaped.of (Scalar.toBool? d.scalar?)

def path (d : Datum) : Shaped String :=
  match d.scalar? with
  | some (.text s) => .ok (Files.Path.ofString s).toString
  | _ => Shaped.fault .notAPath

def levelNames : List String := ["DEBUG", "INFO", "WARNING", "ERROR", "CRITICAL"]

def formatNames : List String := ["json", "console", "auto"]

def suitable (ok : Bool) (s : String) : Shaped String :=
  if ok then .ok s else Shaped.fault .unsuitable

/-- The name of a level in any case. -/
def level (d : Datum) : Shaped String := do
  let name := Text.upper (← text d)
  suitable (levelNames.contains name) name

def format (d : Datum) : Shaped String := do
  let name ← text d
  suitable (formatNames.contains name) name

def isIdentifierStart (c : Char) : Bool :=
  ('A' ≤ c && c ≤ 'Z') || ('a' ≤ c && c ≤ 'z') || c = '_'

def isIdentifier : List Char → Bool
  | [] => false
  | c :: rest => isIdentifierStart c && rest.all fun c => isIdentifierStart c || Decimal.isDigit c

def identifier (d : Datum) : Shaped String := do
  let name ← text d
  suitable (isIdentifier name.toList) name

/-- A time limit above zero, or none. -/
def timeout (d : Datum) : Shaped (Option Double) :=
  if d == .null then .ok none
  else do
    let x ← Shaped.of (Scalar.toFloat? d.scalar?)
    if Double.lt Double.zero x then .ok (some x) else Shaped.fault .notAbove

def depth (d : Datum) : Shaped Int := do
  let i ← Shaped.of (Scalar.toInt? d.scalar?)
  if 1 ≤ i then .ok i else Shaped.fault .below

/-- The settings of some sources, which leave the others at their defaults. -/
def ofSources (s : SettingsSources) : Shaped Settings :=
  let base : Settings := {}
  let setting {α : Type} (name : String) (check : Datum → Shaped α) (default : α) : Shaped α :=
    match s.find? name with
    | some d => Shaped.under name (check d)
    | none => .ok default
  ((setting "kernel_dir" path base.kernelDir).both <|
    (setting "log_level" level base.logLevel).both <|
    (setting "log_format" format base.logFormat).both <|
    (setting "strict_symbols" bool base.strictSymbols).both <|
    (setting "sandbox" bool base.sandbox).both <|
    (setting "script_timeout_seconds" timeout base.scriptTimeout).both <|
    (setting "max_load_depth" depth base.maxLoadDepth).both <|
    setting "symbol_prefix" identifier base.symbolLead).map
  fun (kernelDir, logLevel, logFormat, strictSymbols, sandbox, scriptTimeout, maxLoadDepth,
      symbolLead) =>
    { kernelDir, logLevel, logFormat, strictSymbols, sandbox, scriptTimeout, maxLoadDepth
      symbolLead }

def envFilePath : Files.Path := ⟨"", [".env"]⟩

/-- The variables of the environment file of the working directory, if it has one. -/
def readEnvFile (files : Files.Tree) (environment : List (String × String)) :
    Except SettingsFault (List EnvFile.Binding) :=
  match files.readText envFilePath with
  | .ok s => .ok (EnvFile.read environment s)
  | .error (.undecodable f) => .error (.mishap (.undecodable f))
  | .error _ => .ok []

def load (files : Files.Tree) (environment : List (String × String)) (given : Fields := []) :
    Except SettingsFault Settings := do
  let envFile ← readEnvFile files environment
  (ofSources { given, environment, envFile }).mapError .shape

/-- The settings by name. -/
def fields (s : Settings) : Fields :=
  [("kernel_dir", .text s.kernelDir), ("log_level", .text s.logLevel),
    ("log_format", .text s.logFormat), ("strict_symbols", .bool s.strictSymbols),
    ("sandbox", .bool s.sandbox),
    ("script_timeout_seconds", s.scriptTimeout.elim .null .float),
    ("max_load_depth", .int s.maxLoadDepth), ("symbol_prefix", .text s.symbolLead)]

end Settings

end KernelConfig
