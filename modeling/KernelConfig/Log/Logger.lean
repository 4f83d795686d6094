import KernelConfig.Fault.Basic

/-!
Log records. Fields bound to the context appear in every record that does not have its own; a scope
binds fields and on leaving gives its keys back what they had before.
-/

set_option autoImplicit false

namespace KernelConfig.Log

inductive Level where
  | debug
  | info
  | warning
  | error
  | critical
  deriving DecidableEq, Repr

namespace Level

def name : Level → String
  | debug => "debug"
  | info => "info"
  | warning => "warning"
  | error => "error"
  | critical => "critical"

def rank : Level → Nat
  | debug => 10
  | info => 20
  | warning => 30
  | error => 40
  | critical => 50

def ofName? (s : String) : Option Level := [debug, info, warning, error, critical].find? (·.name = s)

end Level

/-- The least rank that a named threshold lets through. -/
def thresholdOfName? (name : String) : Option Nat :=
  ([("NOTSET", 0), ("DEBUG", 10), ("INFO", 20), ("WARNING", 30), ("WARN", 30), ("ERROR", 40),
    ("CRITICAL", 50), ("FATAL", 50)].find? (·.1 = name)).map (·.2)

structure Event where
  level : Level
  name : String
  fields : Fields := []

abbrev Record := Fields

/-- The record of an event in a context: the event's own fields win, its level and name are fixed. -/
def record (service : String) (bound : Fields) (e : Event) : Record :=
  let fields := e.fields.put "event" (.text e.name)
  let fields := bound.foldl (fun fs f => if fs.has f.1 then fs else fs.put f.1 f.2) fields
  let fields := fields.put "level" (.text e.level.name)
  if fields.has "service.name" then fields else fields.put "service.name" (.text service)

structure Logger where
  threshold : Nat := 50
  json : Bool := true
  service : String := "autokernel"
  bound : Fields := []
  /-- The records written so far, latest first. -/
  records : List Record := []

namespace Logger

def emit (l : Logger) (e : Event) : Logger :=
  if e.level.rank < l.threshold then l
  else { l with records := record l.service l.bound e :: l.records }

@[simp] theorem bound_emit (l : Logger) (e : Event) : (l.emit e).bound = l.bound := by
  unfold emit
  split <;> rfl

def bind (l : Logger) (fields : Fields) : Logger := { l with bound := l.bound.putAll fields }

def unbind (l : Logger) (keys : List String) : Logger := { l with bound := l.bound.remove keys }

def clear (l : Logger) : Logger := { l with bound := [] }

/-- A change of the level that is not known changes the service all the same. -/
def configure (l : Logger) (level : String) (json : Bool) (service : String) :
    Logger × Option Mishap :=
  let l := { l with service }
  match thresholdOfName? (Text.upper level) with
  | some threshold => ({ l with threshold, json }, none)
  | none => (l, some (.unknownLevel (Text.upper level)))

end Logger

/-- A scope that has been entered: its keys, and what those of them that were bound had before. -/
structure Scope where
  keys : List String
  saved : Fields
  deriving BEq, Repr

def Scope.of (bound fields : Fields) : Scope := ⟨fields.keys, bound.only fields.keys⟩

def Scope.leave (s : Scope) (bound : Fields) : Fields := (bound.remove s.keys).putAll s.saved

def Logger.enter (l : Logger) (fields : Fields) : Logger × Scope :=
  (l.bind fields, Scope.of l.bound fields)

def Logger.leave (l : Logger) (s : Scope) : Logger := { l with bound := s.leave l.bound }

end KernelConfig.Log
