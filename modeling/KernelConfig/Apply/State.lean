import KernelConfig.Apply.Journal
import KernelConfig.Dotconfig.Document
import KernelConfig.Files.Tree
import KernelConfig.Log.Logger
import KernelConfig.Settings.Basic
import KernelConfig.Symbol.Table

/-!
Applying sources: an apply changes a symbol table and writes log records. What it has done before a
failure stays done.
-/

set_option autoImplicit false

namespace KernelConfig

/-- What sources find around them. -/
structure Surroundings where
  files : Files.Tree := ⟨[]⟩
  settings : Settings := {}
  /-- The variables of the process. -/
  environment : List (String × String) := []

structure ApplyState where
  table : SymbolTable
  logger : Log.Logger := {}
  /-- The instructions that scripts have executed so far. -/
  ticks : Nat := 0
  /-- What has happened so far, latest first. -/
  journal : List Apply.Event := []

def ApplyState.note (s : ApplyState) (e : Apply.Event) : ApplyState :=
  { s with journal := e :: s.journal }

abbrev Apply (α : Type) := ExceptT Failure (StateM ApplyState) α

namespace Apply

def fail {α : Type} (f : Fault) : Apply α := throw (.fault f)

def table : Apply SymbolTable := do return (← get).table

def setTable (table : SymbolTable) : Apply Unit := modify fun s => { s with table }

def log (level : Log.Level) (name : String) (fields : Fields := []) : Apply Unit :=
  modify fun s => { s with logger := s.logger.emit { level, name, fields } }

/-- Runs a part of an apply in a logging scope, which is left however the part ends. -/
def inScope {α : Type} (fields : Fields) (part : Apply α) : Apply α := fun s =>
  let (logger, scope) := s.logger.enter fields
  let (r, s) := part { s with logger }
  (r, { s with logger := s.logger.leave scope })

/-- Runs a part of an apply; a fault of it is handled. -/
def onFault {α : Type} (part : Apply α) (handle : Fault → Apply α) : Apply α :=
  tryCatch part fun f => match f with
    | .fault f => handle f
    | .mishap m => throw (.mishap m)

/-- The text of a source file; `kind` is the fault that a file out of reach is. -/
def readSource (w : Surroundings) (kind : FaultKind) (path : Files.Path) : Apply String :=
  match w.files.readText path with
  | .ok text => return text
  | .error (.os f) =>
    fail (((Fault.of kind ("cannot read " ++ path.toString ++ ": " ++ f.message)).causedBy
      f.message).withSource path.toString)
  | .error (.undecodable f) => throw (.mishap (.undecodable f))
  | .error .nullInPath => throw (.mishap .nullInPath)

end Apply

/-- The value of a variable that a script may ask for: the table's own variables come first. -/
def Surroundings.lookup? (w : Surroundings) (t : SymbolTable) (name : String) : Option String :=
  match t.env? name with
  | some v => some v
  | none => (w.environment.find? (·.1 = name)).map (·.2)

end KernelConfig
