import KernelConfig.Apply.Source
import KernelConfig.Command.Outcome
import KernelConfig.Kernel.Release
import KernelConfig.Symbol.Declaration
import KernelConfig.Value.Json

/-!
The commands: apply a source and show or write the symbols, explain where the value of a symbol
comes from, and show the settings.
-/

set_option autoImplicit false

namespace KernelConfig.Command

def version : String := "autokernel 0.1.0"

def helpSwitch : Switch := ⟨["--help"], false⟩

def versionSwitch : Switch := ⟨["--version", "-V"], false⟩

def symbolsSwitch : Switch := ⟨["--symbols", "-s"], true⟩

def outputSwitch : Switch := ⟨["--output", "-o"], true⟩

def jsonSwitch : Switch := ⟨["--json"], false⟩

def formatSwitch : Switch := ⟨["--format", "-f"], true⟩

namespace Run

def ofUsage {α : Type} : Except UsageFault α → Run α
  | .ok a => return a
  | .error f => throw (.usage f)

/-- The arguments of a command. -/
def readArguments (switches : List Switch) (words : List String) : Run Arguments := do
  let a ← ofUsage (read (helpSwitch :: switches) true words)
  if a.has "--help" then throw (.exit 0)
  return a

/-- The path of a file that must be there. -/
def existing (path : String) : Run Files.Path := do
  if (← get).files.isFile path then return Files.Path.ofString path
  else throw (.usage (.noSuchFile path))

/-- Exactly the words that a command takes, by name. -/
def takeWords (names : List String) (words : List String) : Run Unit := do
  match names.drop words.length with
  | name :: _ => throw (.usage (.missingWord name))
  | [] =>
    if words.length ≤ names.length then return ()
    else throw (.usage (.extraWords (words.drop names.length)))

/-- Reports a fault and ends the run. -/
def failWith {α : Type} (f : Fault) : Run α := do
  sayError ("[bold red]Error[/bold red] (" ++ f.category.name ++ "): " ++ f.message)
  if f.context.source.isTruthy then
    sayError ("  [dim]in " ++ f.context.source.display ++ "[/dim]")
  if f.context.traceback.isTruthy then printError f.context.traceback.display
  throw (.exit 1)

def ofFailure {α : Type} : Except Failure α → Run α
  | .ok a => return a
  | .error (.fault f) => failWith f
  | .error (.mishap m) => throw (.fault (.mishap m))

/-- A declared table whose kernel version, if no variable states it, is that of the kernel tree. -/
def declared (w : Surroundings) (symbols : Files.Path) : Run SymbolTable := do
  let table ← ofFailure (SymbolTable.ofFile w.files symbols)
  if (w.lookup? table "KERNELVERSION").isSome then return table
  else match Kernel.release w.files (Files.Path.ofString w.settings.kernelDir) with
    | .ok (some v) => return { table with env := table.env ++ [("KERNELVERSION", v)] }
    | .error .nullInPath => throw (.fault (.mishap .nullInPath))
    | _ => return table

/-- The table after applying a source to it. -/
def applied (w : Surroundings) (config symbols : Files.Path) : Run SymbolTable := do
  let table ← declared w symbols
  let json := w.settings.jsonLogs.getD true
  let (logger, _) := ({} : Log.Logger).configure w.settings.logLevel json "autokernel"
  let (r, st) := (Apply.file w config 0) { table, logger }
  modify fun o => { o with logs := st.logger.records }
  ofFailure r
  return st.table

def symbolRow (s : Symbol) : List String :=
  [s.name, s.type.name, s.text, (s.history.head?.map (·.source)).getD ""]

def showTable (t : SymbolTable) : Run Unit := do
  match t.symbols.filter (·.value.isSome) with
  | [] => say "[dim]No symbols assigned.[/dim]"
  | symbols => Run.table ["Symbol", "Type", "Value", "From"] (symbols.map symbolRow)

def symbolsOption (a : Arguments) : Run String :=
  match a.value? "--symbols" with
  | some path => return path
  | none => throw (.usage (.missingOption "--symbols"))

def applyCommand (w : Surroundings) (words : List String) : Run Unit := do
  let a ← readArguments [symbolsSwitch, outputSwitch, jsonSwitch] words
  takeWords ["CONFIG"] a.words
  let config ← existing (a.words.headD "")
  let symbols ← existing (← symbolsOption a)
  let t ← applied w config symbols
  match a.value? "--output" with
  | some path =>
    let path := Files.Path.ofString path
    match (← get).files.writeText path (t.dump w.settings.symbolLead) with
    | .ok files =>
      modify fun o => { o with files }
      sayError ("[green]✓[/green] Wrote " ++ path.toString)
    | .error f => throw (.fault (.os f))
  | none =>
    if a.has "--json" then
      let assigned := (t.symbols.filter (·.value.isSome)).map fun s => (s.name, Datum.text s.text)
      putLines [Fields.jsonLines assigned]
    else showTable t

/-- Prints one assignment of a symbol. -/
def explainRecord (number : Nat) (p : Provenance) : Run Unit := do
  say ("  " ++ Text.decimal number ++ ". from [cyan]" ++ p.source ++ "[/cyan]")
  match p.traceback with
  | some trace => if trace = "" then return () else print ("     " ++ trace)
  | none => return ()

def explainCommand (w : Surroundings) (words : List String) : Run Unit := do
  let a ← readArguments [symbolsSwitch] words
  takeWords ["SYMBOL", "CONFIG"] a.words
  let name := a.words.headD ""
  let config ← existing (a.words.getLastD "")
  let symbols ← existing (← symbolsOption a)
  let t ← applied w config symbols
  match t.symbol? name with
  | none =>
    sayError ("[red]Error:[/red] unknown symbol " ++ name)
    throw (.exit 1)
  | some s =>
    say ("[bold]" ++ s.name ++ "[/bold] (" ++ s.type.name ++ ") = " ++ s.text)
    if s.history.isEmpty then say "[dim]Never assigned.[/dim]"
    else (s.history.reverse.zipIdx 1).forM fun (p, number) => explainRecord number p

def settingsCommand (w : Surroundings) (words : List String) : Run Unit := do
  let a ← readArguments [formatSwitch] words
  takeWords [] a.words
  let fields := w.settings.fields
  if (a.value? "--format").getD "table" = "json" then putLines [Fields.jsonLines fields]
  else
    let sorted := fields.mergeSort fun x y => x.1 ≤ y.1
    Run.table ["Setting", "Value"] (sorted.map fun (k, d) => [k, d.display])

def command (w : Surroundings) (name : String) (words : List String) : Run Unit :=
  if name = "apply" then applyCommand w words
  else if name = "explain" then explainCommand w words
  else settingsCommand w words

def commandNames : List String := ["apply", "explain", "settings"]

/-- Runs the program; settings are loaded before a command reads its arguments. -/
def program (environment : List (String × String)) (arguments : List String) : Run Unit := do
  let a ← ofUsage (read [helpSwitch, versionSwitch] false arguments)
  match a.given with
  | g :: _ =>
    if g.switch = versionSwitch then putLines [version]
    throw (.exit 0)
  | [] => match a.words with
    | [] => throw (.usage .noCommand)
    | name :: words =>
      if commandNames.contains name then
        match Settings.load (← get).files environment with
        | .ok settings => command { files := (← get).files, settings, environment } name words
        | .error f => throw (.fault (.settings f))
      else throw (.usage (.unknownCommand name))

end Run

/-- How a run ends: what it has done, and what went wrong that it does not report itself. -/
def run (files : Files.Tree) (environment : List (String × String)) (arguments : List String) :
    Outcome × Option (UsageFault ⊕ CommandFault) :=
  match (Run.program environment arguments) { files } with
  | (.ok _, o) => (o, none)
  | (.error (.exit code), o) => ({ o with exitCode := code }, none)
  | (.error (.usage f), o) => ({ o with exitCode := 2 }, some (.inl f))
  | (.error (.fault f), o) => ({ o with exitCode := 1 }, some (.inr f))

end KernelConfig.Command
