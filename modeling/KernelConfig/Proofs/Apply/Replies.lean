import KernelConfig.Apply.Context
import KernelConfig.Proofs.Apply.Run
import KernelConfig.Proofs.Symbol.Effects

/-!
Replies: the reply that a script gets to a use of a capability tells what has become of the table.
-/

set_option autoImplicit false

namespace KernelConfig

namespace Capability

/-- Whether a capability sets a symbol. -/
def sets : Capability → Bool
  | setAuto | setBool | setNumber | setTristate | setAny => true
  | getString | getType | load => false

/-- What a setter understands its argument as. -/
def reading (what : Capability) (s : Symbol) (d : Datum) : Except ConversionFault SymbolValue :=
  match what with
  | setAuto => match d.asText? with
    | some x => .ok (.auto x)
    | none => .error (.notAText "value" d)
  | setBool => match d with
    | .bool b => .ok (.bool b)
    | d => .error (.notABoolean s.name d)
  | setNumber => (numberOfDatum d).map .number
  | setTristate => (Tristate.ofDatum d).map .tristate
  | _ => SymbolValue.ofDatum d s.type

/-- What a getter tells of a symbol. -/
def shows (what : Capability) (s : Symbol) : String :=
  if what = getString then s.text else s.type.name

end Capability

/-- The fatal fault that a use of a capability ends with. -/
def Apply.fatalOf? : Except Failure (List Datum) → Option Fault
  | .error (.fault f) => if f.fatal then some f else none
  | _ => none

namespace Apply

variable {w : Surroundings} {c : Caller} {what : Capability} {arguments : List Datum}
  {s : ApplyState}

theorem converted_map {α β : Type} (r : Except ConversionFault α) (g : α → β) (f : β → Apply (List Datum)) :
    (converted (r.map g) >>= f) = converted r >>= fun a => f (g a) := by
  cases r <;> rfl

/-- A setter finds the symbol, reads the value, and assigns it. -/
theorem use_of_sets (h : what.sets = true) (hn : arguments.length ≤ what.parameters) :
    use w c what arguments = (do
      let sym ← symbol w c (arguments.getD 0 .null)
      let v ← converted (what.reading sym (arguments.getD 1 .null))
      assign c sym v (arguments.getD 2 .null) (arguments.getD 3 .null)) := by
  unfold use
  rw [if_neg (Nat.not_lt.mpr hn)]
  cases what with
  | load => cases h
  | getString => cases h
  | getType => cases h
  | setAny => rfl
  | setNumber => simp only [Capability.reading, converted_map]
  | setTristate => simp only [Capability.reading, converted_map]
  | setAuto =>
    refine bind_congr fun sym => ?_
    simp only [Capability.reading, textArgument]
    cases (arguments.getD 1 .null).asText? <;> rfl
  | setBool =>
    refine bind_congr fun sym => ?_
    simp only [Capability.reading]
    cases arguments.getD 1 .null <;> rfl

/-- A getter finds the symbol and shows it. -/
theorem use_of_shows (h : what.sets = false) (hload : what ≠ .load)
    (hn : arguments.length ≤ what.parameters) :
    use w c what arguments = (do
      let sym ← symbol w c (arguments.getD 0 .null)
      return [.text (what.shows sym)]) := by
  unfold use
  rw [if_neg (Nat.not_lt.mpr hn)]
  cases what with
  | getString => rfl
  | getType => rfl
  | load => exact absurd rfl hload
  | _ => cases h

/-! ### Ends -/

/-- The name that a script gives. -/
def nameArgument (arguments : List Datum) : Option String := (arguments.getD 0 .null).asText?

/-- Where a value that a script sets comes from: the script says so, or it is the script's own. -/
def origin (c : Caller) (arguments : List Datum) : Provenance :=
  ⟨(arguments.getD 2 .null).asText?.getD c.source, (arguments.getD 3 .null).asText?⟩

/-- How a use of a capability that loads nothing ends, in which state. -/
inductive Ends (w : Surroundings) (c : Caller) (what : Capability) (arguments : List Datum)
    (s : ApplyState) : Except Failure (List Datum) → ApplyState → Prop
  | surplus (m : Mishap) (h : what.parameters < arguments.length) :
    Ends w c what arguments s (.error (.mishap m)) s
  | unnamed (f : Fault) (h : nameArgument arguments = none) (hf : f.fatal = false) :
    Ends w c what arguments s (.error (.fault f)) s
  | unknown (name : String) (f : Fault) (h : nameArgument arguments = some name)
    (hs : s.table.symbol? name = none) (hf : f.fatal = w.settings.strictSymbols)
    (hn : arguments.length ≤ what.parameters) : Ends w c what arguments s (.error (.fault f)) s
  | shown (sym : Symbol) (hshows : what.sets = false) (h : nameArgument arguments = some sym.name)
    (hs : s.table.symbol? sym.name = some sym) :
    Ends w c what arguments s (.ok [.text (what.shows sym)]) s
  | unread (sym : Symbol) (e : ConversionFault) (hsets : what.sets = true)
    (h : nameArgument arguments = some sym.name) (hs : s.table.symbol? sym.name = some sym)
    (hread : what.reading sym (arguments.getD 1 .null) = .error e) :
    Ends w c what arguments s (.error (.fault e.fault)) s
  | refused (sym : Symbol) (v : SymbolValue) (r : Rejection) (logger : Log.Logger)
    (hsets : what.sets = true) (h : nameArgument arguments = some sym.name)
    (hs : s.table.symbol? sym.name = some sym)
    (hread : what.reading sym (arguments.getD 1 .null) = .ok v)
    (hset : s.table.set sym v (origin c arguments) = .error r) :
    Ends w c what arguments s (.ok [.bool false, .text r.message]) { s with logger }
  | taken (sym : Symbol) (v : SymbolValue) (t : SymbolTable) (hsets : what.sets = true)
    (h : nameArgument arguments = some sym.name) (hs : s.table.symbol? sym.name = some sym)
    (hread : what.reading sym (arguments.getD 1 .null) = .ok v)
    (hset : s.table.set sym v (origin c arguments) = .ok t) :
    Ends w c what arguments s (.ok [.bool true]) { s with table := t }

/-- What a script is told that asks for a symbol that there is not. -/
def unknownSymbolFault (w : Surroundings) (c : Caller) (name : String) : Fault :=
  { ((Fault.of .unknownSymbol ("Unknown symbol: " ++ name)).withSymbol name).withSource c.source with
    fatal := w.settings.strictSymbols }

theorem symbol_run_of_none {d : Datum} (h : d.asText? = none) :
    symbol w c d s = (.error (.fault (ConversionFault.notAText "symbol name" d).fault), s) := by
  rw [symbol, textArgument, h]
  rfl

theorem symbol_run_of_unknown {d : Datum} {name : String} (h : d.asText? = some name)
    (hs : s.table.symbol? name = none) :
    symbol w c d s = (.error (.fault (unknownSymbolFault w c name)), s) := by
  rw [symbol, textArgument, h, bind_run_ok (pure_run name s), bind_run_ok (table_run s)]
  simp only [hs]
  rfl

theorem symbol_run_of_known {d : Datum} {name : String} {sym : Symbol} (h : d.asText? = some name)
    (hs : s.table.symbol? name = some sym) : symbol w c d s = (.ok sym, s) := by
  rw [symbol, textArgument, h, bind_run_ok (pure_run name s), bind_run_ok (table_run s)]
  simp only [hs]
  rfl

theorem assign_run_ok {sym : Symbol} {v : SymbolValue} {source traceback : Datum} {t : SymbolTable}
    (h : s.table.set sym v ⟨source.asText?.getD c.source, traceback.asText?⟩ = .ok t) :
    assign c sym v source traceback s = (.ok [.bool true], { s with table := t }) := by
  unfold assign
  rw [bind_run_ok (table_run s), h]
  rfl

theorem assign_run_error {sym : Symbol} {v : SymbolValue} {source traceback : Datum} {r : Rejection}
    (h : s.table.set sym v ⟨source.asText?.getD c.source, traceback.asText?⟩ = .error r) :
    ∃ logger, assign c sym v source traceback s =
      (.ok [.bool false, .text r.message], { s with logger }) := by
  unfold assign
  rw [bind_run_ok (table_run s), h]
  exact ⟨_, rfl⟩

/-- A use first finds the symbol; `next` is what it does with it. -/
theorem ends_symbol_bind (hn : arguments.length ≤ what.parameters) {next : Symbol → Apply (List Datum)}
    (hnext : ∀ sym : Symbol, nameArgument arguments = some sym.name →
      s.table.symbol? sym.name = some sym →
      Ends w c what arguments s (next sym s).1 (next sym s).2) :
    Ends w c what arguments s ((symbol w c (arguments.getD 0 .null) >>= next) s).1
      ((symbol w c (arguments.getD 0 .null) >>= next) s).2 := by
  cases hname : nameArgument arguments with
  | none =>
    rw [bind_run_error (symbol_run_of_none hname)]
    exact .unnamed _ hname rfl
  | some name =>
    cases hs : s.table.symbol? name with
    | none =>
      rw [bind_run_error (symbol_run_of_unknown hname hs)]
      exact .unknown name _ hname hs rfl hn
    | some sym =>
      obtain rfl := SymbolTable.name_of_symbol? hs
      rw [bind_run_ok (symbol_run_of_known hname hs)]
      exact hnext sym hname hs

/-- All ends of a use: the arguments are too many, or the symbol is not found, or a getter shows it, or
a setter's value is not understood, not taken, or taken. -/
theorem use_ends (hload : what ≠ .load) (w : Surroundings) (c : Caller) (arguments : List Datum)
    (s : ApplyState) :
    Ends w c what arguments s (use w c what arguments s).1 (use w c what arguments s).2 := by
  by_cases hn : arguments.length ≤ what.parameters
  case neg =>
    unfold use
    rw [if_pos (Nat.lt_of_not_le hn)]
    exact .surplus _ (Nat.lt_of_not_le hn)
  cases hsets : what.sets with
  | false =>
    rw [use_of_shows hsets hload hn]
    exact ends_symbol_bind hn fun sym hname hs => .shown sym hsets hname hs
  | true =>
    rw [use_of_sets hsets hn]
    refine ends_symbol_bind hn fun sym hname hs => ?_
    cases hread : what.reading sym (arguments.getD 1 .null) with
    | error e => exact .unread sym e hsets hname hs hread
    | ok v =>
      rw [converted, bind_run_ok (pure_run v s)]
      cases hset : s.table.set sym v (origin c arguments) with
      | ok t =>
        rw [assign_run_ok hset]
        exact .taken sym v t hsets hname hs hread hset
      | error r =>
        obtain ⟨logger, hrun⟩ := assign_run_error hset
        rw [hrun]
        exact .refused sym v r logger hsets hname hs hread hset

/-! ### Replies -/

/-- The reply for the end of a use. -/
def replyTo : Except Failure (List Datum) → Except Mishap (List Datum)
  | .ok results => .ok (.text "ok" :: results)
  | .error (.fault f) => .ok [.text "error", .text f.message]
  | .error (.mishap m) => .error m

theorem useCapability_eq (w : Surroundings) (c : Context) (what : Capability)
    (arguments : List Datum) :
    let (r, s) := use w c.caller what arguments c.shared
    c.useCapability w what arguments = (replyTo r, { c with
      shared := s.note (.used c.caller.depth what arguments r)
      fatal := c.fatal.or (fatalOf? r) }) := by
  simp only [Context.useCapability, used]
  generalize use w c.caller what arguments c.shared = end_
  obtain ⟨(f | m) | results, s⟩ := end_
  · cases hfatal : c.fatal <;> cases hf : f.fatal <;> simp [replyTo, fatalOf?, hf]
  · simp [replyTo, fatalOf?]
  · simp [replyTo, fatalOf?]

namespace Ends

variable {r : Except Failure (List Datum)} {s' : ApplyState} (h : Ends w c what arguments s r s')

include h

theorem answered (hn : arguments.length ≤ what.parameters) : ∃ reply, replyTo r = .ok reply := by
  cases h with
  | surplus m hsurplus => exact absurd hn (Nat.not_le.mpr hsurplus)
  | _ => exact ⟨_, rfl⟩

theorem shape {reply : List Datum} (hreply : replyTo r = .ok reply) :
    (what.sets = true ∧ reply = [.text "ok", .bool true]) ∨
    (what.sets = true ∧ ∃ m, reply = [.text "ok", .bool false, .text m]) ∨
    (what.sets = false ∧ ∃ x, reply = [.text "ok", .text x]) ∨
    ∃ m, reply = [.text "error", .text m] := by
  cases h with
  | surplus => cases hreply
  | unnamed | unknown | unread => cases hreply; exact .inr (.inr (.inr ⟨_, rfl⟩))
  | shown sym hshows => cases hreply; exact .inr (.inr (.inl ⟨hshows, _, rfl⟩))
  | refused sym v r logger hsets => cases hreply; exact .inr (.inl ⟨hsets, _, rfl⟩)
  | taken sym v t hsets => cases hreply; exact .inl ⟨hsets, rfl⟩

theorem changed (hd : s.table.Distinct) (hreply : replyTo r = .ok [.text "ok", .bool true]) :
    ∃ before sym behind given v, s.table.symbols = before ++ sym :: behind ∧
      nameArgument arguments = some sym.name ∧
      what.reading sym (arguments.getD 1 .null) = .ok given ∧
      Symbol.coerceTo sym.type sym.range given = .ok v ∧
      s'.table = ⟨before ++ sym.record v (origin c arguments) :: behind, s.table.env⟩ := by
  cases h with
  | taken sym given t hsets hname hs hread hset =>
    obtain ⟨v, hv, rfl⟩ := SymbolTable.set_eq_ok.mp hset
    obtain ⟨before, behind, hsplit⟩ := List.append_of_mem (SymbolTable.mem_of_symbol? hs)
    refine ⟨before, sym, behind, given, v, hsplit, hname, hread, hv, ?_⟩
    have htable : s.table = ⟨before ++ sym :: behind, s.table.env⟩ := by rw [← hsplit]
    rw [htable] at hd ⊢
    exact SymbolTable.update_between hd rfl
  | _ => simp [replyTo] at hreply

theorem unchanged (hreply : replyTo r ≠ .ok [.text "ok", .bool true]) : s'.table = s.table := by
  cases h with
  | taken => exact absurd rfl hreply
  | _ => rfl

theorem fatalOf?_isSome : (fatalOf? r).isSome = true ↔ arguments.length ≤ what.parameters ∧
    w.settings.strictSymbols = true ∧
      ∃ name, nameArgument arguments = some name ∧ s.table.symbol? name = none := by
  have hknown : ∀ {sym : Symbol}, nameArgument arguments = some sym.name →
      s.table.symbol? sym.name = some sym →
      ¬ ∃ name, nameArgument arguments = some name ∧ s.table.symbol? name = none := by
    rintro sym hname hs ⟨name, hname', hnone⟩
    cases hname.symm.trans hname'
    cases hs.symm.trans hnone
  cases h with
  | surplus m hsurplus => simp [fatalOf?, hsurplus]
  | unnamed f hname hf => simp [fatalOf?, hf, hname]
  | unknown name f hname hs hf hn => simp [fatalOf?, hf, hn, hname, hs]
  | shown sym _ hname hs => simpa [fatalOf?] using fun _ _ => hknown hname hs
  | refused sym _ _ _ _ hname hs => simpa [fatalOf?] using fun _ _ => hknown hname hs
  | taken sym _ _ _ hname hs => simpa [fatalOf?] using fun _ _ => hknown hname hs
  | unread sym e _ hname hs =>
    have hf : e.fault.fatal = false := by cases e <;> rfl
    simpa [fatalOf?, hf] using fun _ _ => hknown hname hs

/-- A value that the symbol takes is not refused. -/
theorem takes {sym : Symbol} {given v : SymbolValue} (hsets : what.sets = true)
    (hn : arguments.length ≤ what.parameters) (hname : nameArgument arguments = some sym.name)
    (hs : s.table.symbol? sym.name = some sym)
    (hread : what.reading sym (arguments.getD 1 .null) = .ok given)
    (hv : Symbol.coerceTo sym.type sym.range given = .ok v) :
    replyTo r = .ok [.text "ok", .bool true] := by
  have hsame : ∀ {sym' : Symbol}, nameArgument arguments = some sym'.name →
      s.table.symbol? sym'.name = some sym' → sym' = sym := by
    intro sym' hname' hs'
    have hnames : sym'.name = sym.name := Option.some.inj (hname'.symm.trans hname)
    rw [hnames, hs] at hs'
    exact (Option.some.inj hs').symm
  cases h with
  | surplus m hsurplus => exact absurd hn (Nat.not_le.mpr hsurplus)
  | unnamed f hnone => cases hnone.symm.trans hname
  | unknown name f hname' hs' =>
    cases hname'.symm.trans hname
    cases hs'.symm.trans hs
  | shown sym' hshows => cases hsets.symm.trans hshows
  | unread sym' e _ hname' hs' hread' =>
    cases hsame hname' hs'
    cases hread'.symm.trans hread
  | refused sym' given' r _ _ hname' hs' hread' hset =>
    cases hsame hname' hs'
    cases hread'.symm.trans hread
    have hset' := (SymbolTable.set_eq_ok (t := s.table) (p := origin c arguments)).mpr ⟨v, hv, rfl⟩
    cases hset.symm.trans hset'
  | taken => rfl

end Ends

/-- The reply to a use that loads nothing is true. A setter that reports success has given the symbol
that is named one more value and provenance, and it reports success whenever the symbol takes the value;
with any other reply, and for a getter, the table is as before. A fatal fault is recorded just when the
name is one of no symbol and symbols are strict. -/
theorem reply_tells_table (w : Surroundings) (c : Context) (what : Capability) (hload : what ≠ .load)
    (arguments : List Datum) (hd : c.shared.table.Distinct) :
    let t := c.shared.table
    let answer := (c.useCapability w what arguments).1
    let after := (c.useCapability w what arguments).2
    let recorded := fatalOf? (use w c.caller what arguments c.shared).1
    (arguments.length ≤ what.parameters → ∃ reply, answer = .ok reply) ∧
    (∀ reply, answer = .ok reply →
      (what.sets = true ∧ reply = [.text "ok", .bool true]) ∨
      (what.sets = true ∧ ∃ m, reply = [.text "ok", .bool false, .text m]) ∨
      (what.sets = false ∧ ∃ x, reply = [.text "ok", .text x]) ∨
      ∃ m, reply = [.text "error", .text m]) ∧
    (answer = .ok [.text "ok", .bool true] → ∃ before sym behind given v,
      t.symbols = before ++ sym :: behind ∧ nameArgument arguments = some sym.name ∧
      what.reading sym (arguments.getD 1 .null) = .ok given ∧
      Symbol.coerceTo sym.type sym.range given = .ok v ∧
      after.shared.table = ⟨before ++ sym.record v (origin c.caller arguments) :: behind, t.env⟩) ∧
    (answer ≠ .ok [.text "ok", .bool true] → after.shared.table = t) ∧
    (∀ sym given v, what.sets = true → arguments.length ≤ what.parameters →
      nameArgument arguments = some sym.name → t.symbol? sym.name = some sym →
      what.reading sym (arguments.getD 1 .null) = .ok given →
      Symbol.coerceTo sym.type sym.range given = .ok v → answer = .ok [.text "ok", .bool true]) ∧
    after.fatal = c.fatal.or recorded ∧
    (recorded.isSome = true ↔ arguments.length ≤ what.parameters ∧ w.settings.strictSymbols = true ∧
      ∃ name, nameArgument arguments = some name ∧ t.symbol? name = none) := by
  have hends := use_ends hload w c.caller arguments c.shared
  rw [useCapability_eq]
  intro t answer after recorded
  exact ⟨hends.answered, fun _ => hends.shape, hends.changed hd, hends.unchanged,
    fun _ _ _ => hends.takes, rfl, hends.fatalOf?_isSome⟩

/-- A number below eight. -/
def octal : Symbol where
  name := "BASE"
  type := .number
  range := some (0, 7)
  history := [⟨"a", none⟩]

def octalContext : Context where
  caller := { source := "base.cfg", loader := none }
  code := ""
  machine := none
  shared := { table := { symbols := [{ name := "DEBUG", type := .boolean }, octal] } }

def octalArguments : List Datum := [.text "BASE", .text "0x5", .null, .text "trace"]

theorem reply_tells_octal : octalContext.shared.table.Distinct ∧
    let answer := (octalContext.useCapability {} .setNumber octalArguments).1
    let after := (octalContext.useCapability {} .setNumber octalArguments).2
    answer = .ok [.text "ok", .bool true] ∧ ∃ before sym behind given v,
      octalContext.shared.table.symbols = before ++ sym :: behind ∧
      nameArgument octalArguments = some sym.name ∧
      Capability.setNumber.reading sym (.text "0x5") = .ok given ∧
      Symbol.coerceTo sym.type sym.range given = .ok v ∧
      after.shared.table = ⟨before ++ sym.record v ⟨"base.cfg", some "trace"⟩ :: behind, []⟩ := by
  have hd : octalContext.shared.table.Distinct := by decide
  obtain ⟨-, -, hchanged, -, htakes, -⟩ :=
    reply_tells_table {} octalContext .setNumber (by decide) octalArguments hd
  have hread : Capability.setNumber.reading octal (.text "0x5") = .ok (.number 5) := by rfl
  have hok := htakes octal (.number 5) (.number 5) rfl (by decide) rfl rfl hread rfl
  exact ⟨hd, hok, hchanged hok⟩

end Apply

end KernelConfig
