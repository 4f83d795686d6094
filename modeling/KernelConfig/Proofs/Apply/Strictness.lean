import KernelConfig.Proofs.Apply.Lifecycle
import KernelConfig.Proofs.Apply.Nesting
import KernelConfig.Proofs.Apply.TypedRuns

/-!
Strictness: whether unknown symbols are fatal is seen by no script. Two runs of one script, strict and not,
go in lockstep as long as the script loads nothing, and differ in nothing but that faults are fatal.
-/

set_option autoImplicit false

namespace KernelConfig

/-- The same surroundings, with unknown symbols being fatal or not. -/
def Surroundings.strict (w : Surroundings) (b : Bool) : Surroundings :=
  { w with settings := { w.settings with strictSymbols := b } }

namespace Apply

/-! ### Answers -/

/-- The end of a use, with unknown symbols being fatal or not. -/
def eased (b : Bool) : Except Failure (List Datum) → Except Failure (List Datum)
  | .error (.fault f) =>
    .error (.fault (if f.kind = .unknownSymbol then { f with fatal := b } else f))
  | r => r

/-- Whether a use has ended because the symbol is unknown. -/
def tellsUnknown : Except Failure (List Datum) → Bool
  | .error (.fault f) => f.kind = .unknownSymbol
  | _ => false

section

variable {w : Surroundings} {b : Bool} {c c' : Caller} {what : Capability} {arguments : List Datum}

end

/-! ### Events -/

namespace Event

def eased (b : Bool) : Event → Event
  | used depth what arguments answer => used depth what arguments (Apply.eased b answer)
  | e => e

/-- Whether a script has been told that a symbol is unknown. -/
def tellsUnknown : Event → Bool
  | used _ _ _ answer => Apply.tellsUnknown answer
  | _ => false

/-- The name of the symbol that a script has used a capability for. -/
def name? : Event → Option String
  | used _ _ arguments _ => nameArgument arguments
  | _ => none

end Event

end Apply

/-! ### Two runs -/

open Apply

/-- A script that is run twice, as the surroundings have it and with unknown symbols being fatal or not;
with the journal and the table that there are when it begins. -/
structure Trial where
  surroundings : Surroundings
  strict : Bool
  name : String
  depth : Int
  base : List Event
  table : SymbolTable

namespace Trial

variable (T : Trial)

def caller : Caller := callerAt T.surroundings T.name T.depth

def others : Surroundings := T.surroundings.strict T.strict

/-- What the context of the first run is like when these events have happened in it, latest first. -/
structure Since (since : List Event) (c : Context) : Prop where
  caller : c.caller = T.caller
  journal : c.shared.journal = since ++ T.base
  fatal : c.fatal = firstFatal since.reverse
  names : c.shared.table.names = T.table.names
  unknown : ∀ e ∈ since, e.tellsUnknown = true → ∃ name, e.name? = some name ∧ T.table.symbol? name = none

/-- The context of the second run. -/
def twin (since : List Event) (c : Context) : Context :=
  { c with
    caller := callerAt T.others T.name T.depth
    fatal := firstFatal (since.map (Event.eased T.strict)).reverse
    shared := { c.shared with journal := since.map (Event.eased T.strict) ++ T.base } }

def Unloaded (c : Context) : Prop :=
  ∀ since, c.shared.journal = since ++ T.base → ∀ e ∈ since, e.isLoad = false

/-- The script stays the same, and nothing in the journal is lost. -/
def Grows (c c' : Context) : Prop := c.caller = T.caller → c'.caller = T.caller ∧ Extends c.shared c'.shared

theorem tolerant_grows : Context.Tolerant T.surroundings T.Grows :=
  tolerant_of_used (fun _ _ _ hjournal _ => ⟨[], hjournal⟩) fun what arguments =>
    (keeps_used (checks_loader T.surroundings T.depth) what arguments).mono fun _ _ => extends_of_keeps

variable {T} {since : List Event} {c c' : Context}

theorem Unloaded.of_extends (h : T.Unloaded c') (hextends : Extends c.shared c'.shared) :
    T.Unloaded c := by
  intro since hjournal e he
  obtain ⟨more, hmore⟩ := hextends
  exact h (more ++ since) (by rw [hmore, hjournal, List.append_assoc]) e (List.mem_append_right _ he)

theorem Since.source (h : T.Since since c) : (T.twin since c).caller.source = c.caller.source := by
  rw [h.caller]
  rfl

/-- A part of the first run and one of the second, in lockstep unless the script loads something. What
they end with is the same, for certain or if no symbol has been unknown. -/
structure Lockstep {α : Type} (T : Trial) (certain : Prop) (part part' : Stepping α) : Prop where
  grows : Moves T.Grows part
  agrees : ∀ since c, T.Since since c → T.Unloaded (part c).2 → ∃ since', T.Since since' (part c).2 ∧
    (part' (T.twin since c)).2 = T.twin since' (part c).2 ∧
      (certain ∨ (∀ e ∈ since', e.tellsUnknown = false) →
        (part' (T.twin since c)).1 = (part c).1)

section

variable {α β : Type} {certain : Prop}

theorem Lockstep.run {part part' : Stepping α} (h : T.Lockstep True part part') (hc : T.Since since c)
    (hunloaded : T.Unloaded (part c).2) : ∃ since', T.Since since' (part c).2 ∧
      part' (T.twin since c) = ((part c).1, T.twin since' (part c).2) := by
  obtain ⟨since', h', htwin, hsame⟩ := h.agrees since c hc hunloaded
  exact ⟨since', h', Prod.ext (hsame (.inl trivial)) htwin⟩

theorem Lockstep.bind {part part' : Stepping α} {next next' : α → Stepping β}
    (h : T.Lockstep True part part') (hnext : ∀ a, T.Lockstep certain (next a) (next' a)) :
    T.Lockstep certain (part >>= next) (part' >>= next') := by
  have := T.tolerant_grows.toIsPreorder
  refine ⟨moves_bind h.grows fun a => (hnext a).grows, fun since c hc hunloaded => ?_⟩
  have hrun := h.run hc
  have hgrows := h.grows c hc.caller
  rw [bind_run] at hunloaded ⊢
  rcases hr : part c with ⟨e | a, c'⟩ <;> rw [hr] at hrun hunloaded hgrows
  · obtain ⟨since', h', heq⟩ := hrun hunloaded
    rw [bind_run_error heq]
    exact ⟨since', h', rfl, fun _ => rfl⟩
  · have hextends := ((hnext a).grows c' hgrows.1).2
    obtain ⟨since', h', heq⟩ := hrun (hunloaded.of_extends hextends)
    rw [bind_run_ok heq]
    exact (hnext a).agrees since' c' h' hunloaded

end

end Trial

namespace Apply

open Context (lenient lenientScript lenientStart)

/-! ### Scripts -/

variable {w : Surroundings} {b : Bool} {src : Source} {depth : Int} {s : ApplyState}

end Apply

end KernelConfig
