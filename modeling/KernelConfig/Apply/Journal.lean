import KernelConfig.Fault.Basic

/-!
The journal of an apply: which contexts have run scripts, what these have asked for and what they got.
Nothing that an apply does depends on it.
-/

set_option autoImplicit false

namespace KernelConfig

inductive Capability where
  | setAuto
  | setBool
  | setNumber
  | setTristate
  | getString
  | getType
  | setAny
  | load
  deriving DecidableEq, Repr

inductive Stage where
  | created
  | preludeLoaded
  | apiInstalled
  | namespaceInstalled
  | userScriptRunning
  | completed
  | failed
  deriving DecidableEq, Repr

def Stage.name : Stage → String
  | created => "created"
  | preludeLoaded => "prelude_loaded"
  | apiInstalled => "api_installed"
  | namespaceInstalled => "namespace_installed"
  | userScriptRunning => "user_script_running"
  | completed => "completed"
  | failed => "failed"

namespace Apply

/-- What happens in the contexts of an apply. Those that are open at one time differ in their depth. -/
inductive Event where
  | opened (depth : Int) (source : String)
  /-- A script has used a capability: its results, or what has gone wrong. -/
  | used (depth : Int) (what : Capability) (arguments : List Datum)
      (answer : Except Failure (List Datum))
  | closed (depth : Int) (stage : Stage) (outcome : Except Failure Unit)

end Apply

end KernelConfig
