import KernelConfig.Apply.State

/-!
Declarative sources: configuration files, applied line by line. Checked, the first line that names
an unknown symbol or does not fit its type ends the apply; unchecked, unknown names are passed over
and texts are stored as they are.
-/

set_option autoImplicit false

namespace KernelConfig.Apply

/-- Applies one entry of a checked source. -/
def checkedEntry (source lead : String) (e : Dotconfig.Entry) : Apply Unit := do
  let place := source ++ ":" ++ Text.decimal e.line
  let located (f : Fault) : Fault := ((f.withSource source).withLine e.line).withSymbol e.name
  let t ← table
  match t.symbol? e.name with
  | none => fail (located (Fault.of .configLoad (place ++ ": unknown symbol " ++ lead ++ e.name)))
  | some s => match t.set s (.auto e.value) ⟨source, some place⟩ with
    | .ok t => setTable t
    | .error r =>
      fail (located ((Fault.of .configLoad (place ++ ": " ++ r.message)).causedBy r.message))

/-- Applies entries up to the line that cannot be read, if there is one. -/
def entries (source : String) (d : Dotconfig.Document) (apply : Dotconfig.Entry → Apply Unit) :
    Apply Unit := do
  d.entries.forM apply
  match d.failure with
  | some f => fail (f.fault source)
  | none => return ()

def checked (w : Surroundings) (source text : String) : Apply Unit :=
  inScope [("source", .text source)] do
    let lead := w.settings.symbolLead
    log .info "config.apply.started" [("kind", .text "kconfig")]
    let d := Dotconfig.read lead text
    entries source d (checkedEntry source lead)
    log .info "config.apply.completed"
      [("kind", .text "kconfig"), ("assignments", .int d.entries.length)]

def uncheckedEntry (source : String) (e : Dotconfig.Entry) : Apply Unit := do
  let t ← table
  match t.symbol? e.name with
  | none => return ()
  | some s => setTable (t.assignRaw s e.value source)

/-- Applies a file as it is. -/
def unchecked (w : Surroundings) (path : Files.Path) (lead : String) : Apply Unit := do
  let text ← readSource w .symbolFile path
  let source := path.toString
  let names := (← table).names
  let d := Dotconfig.read lead text
  entries source d (uncheckedEntry source)
  let known := d.entries.filter fun e => names.contains e.name
  log .debug "config.unchecked.applied" [("path", .text source), ("assignments", .int known.length)]

end KernelConfig.Apply
