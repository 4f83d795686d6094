import KernelConfig.Apply.Context

/-!
Sources: a script or a configuration file, told apart by the name of the file. Sources apply one
another up to a depth.
-/

set_option autoImplicit false

namespace KernelConfig

inductive SourceKind where
  | script
  | declarative
  deriving DecidableEq, Repr

def SourceKind.ofPath (p : Files.Path) : SourceKind :=
  if p.suffix = ".lua" then .script else .declarative

structure Source where
  kind : SourceKind
  name : String
  text : String
  deriving DecidableEq, Repr

namespace Apply

def readSourceFile (w : Surroundings) (path : Files.Path) : Apply Source := do
  let text ← readSource w .configLoad path
  return { kind := .ofPath path, name := path.toString, text }

/-- Runs the steps of a context on the state; that it is opened and closed is noted. -/
def inContext (caller : Caller) (start : ApplyState → Context) (steps : Stepping Unit) : Apply Unit :=
  fun s =>
    let (r, c) := steps (start (s.note (.opened caller.depth caller.source)))
    (r, c.shared.note (.closed caller.depth c.stage r))

/-- Applies a script; `loader` is how it applies other sources. -/
def script (w : Surroundings) (loader : Option Loader) (name text : String) (depth : Int) :
    Apply Unit :=
  inScope [("source", .text name), ("depth", .int depth)] do
    let caller : Caller := { source := name, depth, loader }
    log .info "config.apply.started" [("kind", .text "lua")]
    onFault (inContext caller (Context.new w caller text) (Context.execute w)) fun f => do
      log .error "config.apply.failed" (("kind", .text "lua") :: f.record)
      fail f
    log .info "config.apply.completed" [("kind", .text "lua")]

def sourceWith (w : Surroundings) (loader : Option Loader) (s : Source) (depth : Int) : Apply Unit :=
  match s.kind with
  | .script => script w loader s.name s.text depth
  | .declarative => checked w s.name s.text

/-- How a source at a depth applies others, when so many more levels are allowed. -/
def loaderAt (w : Surroundings) : (levels : Nat) → (depth : Int) → Option Loader
  | 0, _ => none
  | levels + 1, depth =>
    let inner := loaderAt w levels (depth + 1)
    some fun path nocheck =>
      if nocheck then unchecked w path w.settings.symbolLead
      else do
        let s ← readSourceFile w path
        sourceWith w inner s (depth + 1)

/-- How a source at a depth applies others, within the limit of the settings. -/
def loader (w : Surroundings) (depth : Int) : Option Loader :=
  loaderAt w (w.settings.maxLoadDepth - depth).toNat depth

/-- Applies a source that is itself at a depth. -/
def source (w : Surroundings) (s : Source) (depth : Int) : Apply Unit :=
  sourceWith w (loader w depth) s depth

/-- Reads and applies the source at a path. -/
def file (w : Surroundings) (path : Files.Path) (depth : Int) : Apply Unit := do
  source w (← readSourceFile w path) depth

end Apply

end KernelConfig
