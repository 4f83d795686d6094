import KernelConfig.Apply.State
import KernelConfig.Command.Line
import KernelConfig.Console.Grid
import KernelConfig.Console.Markup
import KernelConfig.Settings.Load

/-!
What a run of a command does: it prints, writes files, and ends with an exit code or a failure.
-/

set_option autoImplicit false

namespace KernelConfig.Command

/-- Failures that commands do not report themselves. -/
inductive CommandFault where
  | settings (f : SettingsFault)
  | mishap (m : Mishap)
  | markup (f : Console.MarkupFault)
  | os (f : Files.OsFault)
  deriving DecidableEq, Repr

def CommandFault.message : CommandFault → String
  | settings (.shape faults) =>
    "settings: " ++ ", ".intercalate (faults.map fun f => ".".intercalate f.place ++ ": " ++ f.misfit.name)
  | settings (.mishap m) | mishap m => m.message
  | markup f => f.message
  | os f => f.message

structure Outcome where
  files : Files.Tree
  /-- The printed lines, latest first. -/
  out : List String := []
  err : List String := []
  logs : List Log.Record := []
  exitCode : Nat := 0
  deriving Repr

/-- The text that a list of printed lines, latest first, makes up. -/
def Outcome.text (lines : List String) : String := String.join (lines.reverse.map (· ++ "\n"))

/-- Why a run stops before its end: its work is done, its use was wrong, or it failed. -/
inductive Halt where
  | exit (code : Nat)
  | usage (f : UsageFault)
  | fault (f : CommandFault)

abbrev Run (α : Type) := ExceptT Halt (StateM Outcome) α

namespace Run

/-- The columns of the terminal. -/
def columns : Nat := 200

def putLines (lines : List String) : Run Unit :=
  modify fun o => { o with out := lines.reverse ++ o.out }

def putErrorLines (lines : List String) : Run Unit :=
  modify fun o => { o with err := lines.reverse ++ o.err }

def rendered (markup : String) : Run String :=
  match Console.Markup.render markup with
  | .ok s => return s
  | .error f => throw (.fault (.markup f))

/-- Prints plain text. -/
def print (s : String) : Run Unit := putLines (Console.wrap columns s)

def printError (s : String) : Run Unit := putErrorLines (Console.wrap columns s)

/-- Prints text with markup. -/
def say (markup : String) : Run Unit := do print (← rendered markup)

def sayError (markup : String) : Run Unit := do printError (← rendered markup)

/-- Prints a table whose cells hold markup. -/
def table (head : List String) (rows : List (List String)) : Run Unit := do
  putLines (Console.Grid.render columns head (← rows.mapM fun row => row.mapM rendered))

end Run

end KernelConfig.Command
