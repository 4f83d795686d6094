import KernelConfig.Proofs.Apply.Replies
import KernelConfig.Proofs.Text.Utf8

/-!
Writing a text: whichever setter that knows texts a script gives one to, and also when a line of a
configuration file says so, the symbol takes the same value or none of them changes it.
-/

set_option autoImplicit false

namespace KernelConfig

open Script (Machine Value)

/-! ### Reading and coercing -/

namespace Capability

/-- The setters for a text: the two for symbols of any type, and the one for the symbol's own type. -/
def textSetters : SymbolType → List Capability
  | .boolean | .tristate => [setAny, setAuto, setTristate]
  | .number => [setAny, setAuto, setNumber]
  | .string | .auto => [setAny, setAuto]

theorem sets_of_mem_textSetters {type : SymbolType} {what : Capability}
    (h : what ∈ textSetters type) : what.sets = true ∧ what.parameters = 4 := by
  cases type <;> cases what <;> revert h <;> decide

/-- What a setter makes of a text that the symbol would read: a state, or a number, or nothing yet. -/
theorem reading_text {s : Symbol} {what : Capability} (hwhat : what ∈ textSetters s.type) (x : String) :
    what.reading s (.text x) = .ok (.auto x) ∨
    (s.type.isSwitch = true ∧
      what.reading s (.text x) = (Tristate.ofDatum (.text x)).map SymbolValue.tristate) ∨
    (s.type = .number ∧ what.reading s (.text x) = (numberOfDatum (.text x)).map SymbolValue.number) := by
  cases htype : s.type <;> rw [htype] at hwhat <;>
    simp only [textSetters, List.mem_cons, List.not_mem_nil, or_false] at hwhat
  case tristate =>
    rcases hwhat with rfl | rfl | rfl
    · exact .inr (.inl ⟨rfl, by simp [reading, SymbolValue.ofDatum, htype]⟩)
    · exact .inl rfl
    · exact .inr (.inl ⟨rfl, rfl⟩)
  case boolean =>
    rcases hwhat with rfl | rfl | rfl
    · exact .inl (by simp [reading, SymbolValue.ofDatum, htype])
    · exact .inl rfl
    · exact .inr (.inl ⟨rfl, rfl⟩)
  case number =>
    rcases hwhat with rfl | rfl | rfl
    · exact .inl (by simp [reading, SymbolValue.ofDatum, htype])
    · exact .inl rfl
    · exact .inr (.inr ⟨rfl, rfl⟩)
  case auto | string =>
    rcases hwhat with rfl | rfl
    · exact .inl (by simp [reading, SymbolValue.ofDatum, htype])
    · exact .inl rfl

/-- Where the text is read, before the table or at the symbol, makes no difference to the value. -/
theorem takes_reading_iff {s : Symbol} {what : Capability} (hwhat : what ∈ textSetters s.type)
    (x : String) (v : SymbolValue) :
    (∃ given, what.reading s (.text x) = .ok given ∧ Symbol.coerceTo s.type s.range given = .ok v) ↔
      Symbol.coerceTo s.type s.range (.auto x) = .ok v := by
  rcases reading_text hwhat x with hread | ⟨hswitch, hread⟩ | ⟨htype, hread⟩
  · simp [hread]
  · -- The state is found in the text once, by the setter or by the symbol.
    rw [hread]
    cases htype : s.type <;> rw [htype] at hswitch <;> try cases hswitch
    · cases hstate : Tristate.ofDatum (.text x) with
      | error f => simp [Except.map, Symbol.coerceTo, Symbol.stateOfText, hstate]
      | ok state =>
        cases state <;>
          simp [Except.map, Symbol.coerceTo, Symbol.stateOfText, Symbol.boolOfState, hstate]
    · cases hstate : Tristate.ofDatum (.text x) <;>
        simp [Except.map, Symbol.coerceTo, Symbol.stateOfText, hstate]
  · rw [hread, htype]
    cases hnumber : numberOfDatum (.text x) <;> simp [Except.map, Symbol.coerceTo, hnumber]

end Capability

namespace SymbolTable

/-- A table in which the symbol between two lists of others has taken a value. -/
theorem set_between {t : SymbolTable} {before behind : List Symbol} {s : Symbol}
    (hsymbols : t.symbols = before ++ s :: behind) (hd : t.Distinct) {given v : SymbolValue}
    (hv : Symbol.coerceTo s.type s.range given = .ok v) (p : Provenance) :
    t.set s given p = .ok ⟨before ++ s.record v p :: behind, t.env⟩ := by
  have htable : t = ⟨before ++ s :: behind, t.env⟩ := by rw [← hsymbols]
  refine set_eq_ok.mpr ⟨v, hv, ?_⟩
  rw [htable] at hd ⊢
  exact (update_between hd (show (s.record v p).name = s.name from rfl)).symm

theorem symbol?_between {t : SymbolTable} {before behind : List Symbol} {s : Symbol}
    (hsymbols : t.symbols = before ++ s :: behind) (hd : t.Distinct) : t.symbol? s.name = some s :=
  symbol?_name hd (by simp [hsymbols])

end SymbolTable

namespace Apply

/-! ### One setter -/

/-- The replies that tell a script that a value was not taken: an error, or the answer no. -/
inductive Declines : Except Mishap (List Datum) → Prop
  | raised (m : Mishap) : Declines (.error m)
  | fault (message : String) : Declines (.ok [.text "error", .text message])
  | refusal (message : String) : Declines (.ok [.text "ok", .bool false, .text message])

variable {w : Surroundings} {c : Context} {m : Machine} {before behind : List Symbol} {sym : Symbol}
  {what : Capability}

theorem data_cons (v : Value) (vs : List Value) :
    m.data (v :: vs) = (m.datum v).bind fun d => (m.data vs).bind fun ds => .ok (d :: ds) := rfl

theorem datum_string (m : Machine) (s : String) :
    m.datum (.string (Script.bytes s)) = .ok (.text s) := by
  simp [Machine.datum, Script.bytes, Text.decodeUtf8_utf8]

theorem exists_of_data_cons {v : Value} {vs : List Value} {data : List Datum}
    (h : m.data (v :: vs) = .ok data) :
    ∃ d ds, data = d :: ds ∧ m.datum v = .ok d ∧ m.data vs = .ok ds := by
  rw [data_cons] at h
  cases hv : m.datum v with
  | error f => rw [hv] at h; cases h
  | ok d =>
    cases hvs : m.data vs with
    | error f => rw [hv, hvs] at h; cases h
    | ok ds =>
      rw [hv, hvs] at h
      cases h
      exact ⟨d, ds, rfl, rfl, rfl⟩

theorem exists_of_data_text {s : String} {vs : List Value} {data : List Datum}
    (h : m.data (.string (Script.bytes s) :: vs) = .ok data) :
    ∃ ds, data = .text s :: ds ∧ m.data vs = .ok ds := by
  obtain ⟨d, ds, rfl, hd, hds⟩ := exists_of_data_cons h
  cases (datum_string m s).symm.trans hd
  exact ⟨ds, rfl, hds⟩

theorem length_data {vs : List Value} {data : List Datum} (h : m.data vs = .ok data) :
    data.length = vs.length := by
  induction vs generalizing data with
  | nil => cases h; rfl
  | cons v vs ih =>
    obtain ⟨d, ds, rfl, -, hds⟩ := exists_of_data_cons h
    simp [ih hds]

/-- A capability is asked for by its name; what cannot be read as data is an error. -/
theorem respond_error {arguments : List Value} {f : Mishap} (hdata : m.data arguments = .error f) :
    c.respond w m what.guestName arguments = (.error f, c) := by
  have hplain : what.guestName ≠ "__index" ∧ what.guestName ≠ "__newindex" := by
    cases what <;> decide
  simp [Context.respond, hplain, hdata]

theorem respond_eq {arguments : List Value} {data : List Datum}
    (hdata : m.data arguments = .ok data) :
    c.respond w m what.guestName arguments = c.useCapability w what data := by
  have hfind : Capability.ofGuestName? what.guestName = some what := by
    cases what <;> rfl
  have hplain : what.guestName ≠ "__index" ∧ what.guestName ≠ "__newindex" ∧
      what.guestName ≠ Context.deadlineName := by
    cases what <;> decide
  simp [Context.respond, hplain, hdata, hfind]

/-- A setter that is given a text replies yes and has stored the value that the symbol coerces the text
to, or declines and has changed nothing. -/
theorem useCapability_text (hwhat : what ∈ Capability.textSetters sym.type)
    (hsymbols : c.shared.table.symbols = before ++ sym :: behind) (hd : c.shared.table.Distinct)
    (x : String) {origins : List Datum} (horigins : origins.length ≤ 2) :
    let arguments := .text sym.name :: .text x :: origins
    let (reply, after) := c.useCapability w what arguments
    (∀ v, Symbol.coerceTo sym.type sym.range (.auto x) = .ok v →
      reply = .ok [.text "ok", .bool true] ∧ after.shared.table =
        ⟨before ++ sym.record v (origin c.caller arguments) :: behind, c.shared.table.env⟩) ∧
    ((∀ v, Symbol.coerceTo sym.type sym.range (.auto x) ≠ .ok v) →
      Declines reply ∧ after.shared.table = c.shared.table) := by
  intro arguments
  obtain ⟨hsets, hparameters⟩ := Capability.sets_of_mem_textSetters hwhat
  have hload : what ≠ .load := by rintro rfl; cases hsets
  have hcount : arguments.length ≤ what.parameters := by
    simp only [arguments, List.length_cons, hparameters]
    omega
  have hknown := SymbolTable.symbol?_between hsymbols hd
  have hname : nameArgument arguments = some sym.name := rfl
  have hfound : use w c.caller what arguments c.shared =
      (converted (what.reading sym (.text x)) >>= fun v => assign c.caller sym v
        (arguments.getD 2 .null) (arguments.getD 3 .null)) c.shared := by
    rw [use_of_sets hsets hcount, bind_run_ok (symbol_run_of_known hname hknown)]
    rfl
  have huse := useCapability_eq w c what arguments
  rw [hfound] at huse
  cases hread : what.reading sym (.text x) with
  | error e =>
    rw [hread, converted, fail, bind_run_error (throw_run _ _)] at huse
    rw [huse]
    refine ⟨fun v hv => ?_, fun _ => ⟨.fault _, rfl⟩⟩
    obtain ⟨given, hgiven, -⟩ := (Capability.takes_reading_iff hwhat x v).mpr hv
    cases hread.symm.trans hgiven
  | ok given =>
    rw [hread, converted, bind_run_ok (pure_run given _)] at huse
    cases hset : c.shared.table.set sym given (origin c.caller arguments) with
    | ok t =>
      rw [assign_run_ok hset] at huse
      rw [huse]
      obtain ⟨v, hv, -⟩ := SymbolTable.set_eq_ok.mp hset
      have hcoerce := (Capability.takes_reading_iff hwhat x v).mp ⟨given, hread, hv⟩
      refine ⟨fun v' hv' => ⟨rfl, ?_⟩, fun hnone => absurd hcoerce (hnone v)⟩
      cases hcoerce.symm.trans hv'
      cases hset.symm.trans (SymbolTable.set_between hsymbols hd hv _)
      rfl
    | error r =>
      obtain ⟨logger, hrun⟩ := assign_run_error hset
      rw [hrun] at huse
      rw [huse]
      refine ⟨fun v hv => ?_, fun _ => ⟨.refusal _, rfl⟩⟩
      obtain ⟨given', hgiven', hv'⟩ := (Capability.takes_reading_iff hwhat x v).mpr hv
      cases hread.symm.trans hgiven'
      cases hset.symm.trans (SymbolTable.set_between hsymbols hd hv' _)

/-! ### All ways of writing -/

/-- An entry of a checked source that gives a symbol a text. -/
theorem checkedEntry_text {state : ApplyState} (hsymbols : state.table.symbols = before ++ sym :: behind)
    (hd : state.table.Distinct) (source lead x : String) (quoted : Bool) (line : Nat) :
    let e : Dotconfig.Entry := ⟨⟨sym.name, x, quoted⟩, line⟩
    let p : Provenance := ⟨source, some (source ++ ":" ++ Text.decimal line)⟩
    (∀ v, Symbol.coerceTo sym.type sym.range (.auto x) = .ok v →
      checkedEntry source lead e state = (.ok (), { state with
        table := ⟨before ++ sym.record v p :: behind, state.table.env⟩ })) ∧
    ((∀ v, Symbol.coerceTo sym.type sym.range (.auto x) ≠ .ok v) →
      ∃ f, checkedEntry source lead e state = (.error (.fault f), state)) := by
  intro e p
  have hknown : state.table.symbol? e.name = some sym := SymbolTable.symbol?_between hsymbols hd
  constructor
  · intro v hv
    have hset := SymbolTable.set_between hsymbols hd hv p
    rw [checkedEntry, bind_run_ok (table_run state)]
    simp only [hknown, e, p] at hset ⊢
    rw [hset]
    exact setTable_run _ _
  · intro hnone
    rw [checkedEntry, bind_run_ok (table_run state)]
    cases hset : state.table.set sym (.auto x) p with
    | ok t =>
      obtain ⟨v, hv, -⟩ := SymbolTable.set_eq_ok.mp hset
      exact absurd hv (hnone v)
    | error r =>
      simp only [hknown, e, p] at hset ⊢
      rw [hset]
      exact ⟨_, rfl⟩

/-- A text that a script gives to any setter that knows texts, and the same text in an entry of a checked
source: the symbol takes one value in all of these ways, or it is changed in none of them. -/
theorem text_is_written_alike (w : Surroundings) (c : Context) (m : Machine) {before behind : List Symbol}
    {sym : Symbol} (hsymbols : c.shared.table.symbols = before ++ sym :: behind)
    (hd : c.shared.table.Distinct) (t : Bytes) {rest : List Value} {origins : List Datum}
    (hrest : m.data rest = .ok origins) (hcount : rest.length ≤ 2) :
    let ask (what : Capability) :=
      c.respond w m what.guestName (.text sym.name :: .string t :: rest)
    let holding (v : SymbolValue) (p : Provenance) : SymbolTable :=
      ⟨before ++ sym.record v p :: behind, c.shared.table.env⟩
    (∃ x v, Text.decodeUtf8 t = .ok x ∧
      (∀ what ∈ Capability.textSetters sym.type, (ask what).1 = .ok [.text "ok", .bool true] ∧
        (ask what).2.shared.table =
          holding v (origin c.caller (.text sym.name :: .text x :: origins))) ∧
      ∀ source lead quoted line, ∀ s : ApplyState, s.table = c.shared.table →
        checkedEntry source lead ⟨⟨sym.name, x, quoted⟩, line⟩ s = (.ok (), { s with
          table := holding v ⟨source, some (source ++ ":" ++ Text.decimal line)⟩ })) ∨
    ((∀ what ∈ Capability.textSetters sym.type, Declines (ask what).1 ∧
        (ask what).2.shared.table = c.shared.table) ∧
      ∀ x, Text.decodeUtf8 t = .ok x → ∀ source lead quoted line, ∀ s : ApplyState,
        s.table = c.shared.table →
        ∃ f, checkedEntry source lead ⟨⟨sym.name, x, quoted⟩, line⟩ s = (.error (.fault f), s)) := by
  intro ask holding
  have hname : m.datum (.text sym.name) = .ok (.text sym.name) := by
    simp [Machine.datum, Value.text, Script.bytes, Text.decodeUtf8_utf8]
  cases hdecode : Text.decodeUtf8 t with
  | error f =>
    -- A text that cannot be read does not get past the exchange.
    have hdata : m.data (.text sym.name :: .string t :: rest) = .error (.undecodable f) := by
      have ht : m.datum (.string t) = .error (.undecodable f) := by simp [Machine.datum, hdecode]
      rw [data_cons, hname, Except.bind, data_cons, ht]
      rfl
    refine .inr ⟨fun what _ => ?_, fun x hx => by cases hx⟩
    rw [show ask what = (.error (.undecodable f), c) from respond_error hdata]
    exact ⟨.raised _, rfl⟩
  | ok x =>
    have hdata : m.data (.text sym.name :: .string t :: rest) =
        .ok (.text sym.name :: .text x :: origins) := by
      have ht : m.datum (.string t) = .ok (.text x) := by simp [Machine.datum, hdecode]
      rw [data_cons, hname, Except.bind, data_cons, ht, hrest]
      rfl
    have hask : ∀ what ∈ Capability.textSetters sym.type,
        ask what = c.useCapability w what (.text sym.name :: .text x :: origins) :=
      fun what _ => respond_eq hdata
    have horigins : origins.length ≤ 2 := by rwa [length_data hrest]
    have huse := fun what (hwhat : what ∈ Capability.textSetters sym.type) =>
      useCapability_text (w := w) hwhat hsymbols hd x horigins
    by_cases htakes : ∃ v, Symbol.coerceTo sym.type sym.range (.auto x) = .ok v
    · obtain ⟨v, hv⟩ := htakes
      refine .inl ⟨x, v, rfl, fun what hwhat => ?_, fun source lead quoted line s hs => ?_⟩
      · rw [hask what hwhat]
        exact (huse what hwhat).1 v hv
      · rw [← hs] at hsymbols hd
        rw [(checkedEntry_text hsymbols hd source lead x quoted line).1 v hv, hs]
    · have hnone : ∀ v, Symbol.coerceTo sym.type sym.range (.auto x) ≠ .ok v :=
        fun v hv => htakes ⟨v, hv⟩
      refine .inr ⟨fun what hwhat => ?_, fun x' hx' source lead quoted line s hs => ?_⟩
      · rw [hask what hwhat]
        exact (huse what hwhat).2 hnone
      · cases hx'
        rw [← hs] at hsymbols hd
        exact (checkedEntry_text hsymbols hd source lead x quoted line).2 hnone

/-- All three setters store a number below eight that is written in hexadecimal. -/
theorem octal_text_is_written_alike : octalContext.shared.table.Distinct ∧
    (Machine.start []).data [.text "here"] = .ok [.text "here"] ∧
    ∃ v, ∀ what ∈ [Capability.setAny, .setAuto, .setNumber],
      let (reply, after) := octalContext.respond {} (Machine.start []) what.guestName
        [.text "BASE", .text "0x5", .text "here"]
      reply = .ok [.text "ok", .bool true] ∧ after.shared.table =
        ⟨[{ name := "DEBUG", type := .boolean }, octal.record v ⟨"here", none⟩], []⟩ := by
  have hd : octalContext.shared.table.Distinct := by decide
  have hrest : (Machine.start []).data [.text "here"] = .ok [.text "here"] := by rfl
  refine ⟨hd, hrest, ?_⟩
  have hsymbols : octalContext.shared.table.symbols =
      [{ name := "DEBUG", type := .boolean }] ++ octal :: [] := rfl
  rcases text_is_written_alike {} octalContext (Machine.start []) hsymbols hd (Text.utf8 "0x5") hrest
    (by decide) with ⟨x, v, hx, hall, -⟩ | ⟨-, hnone⟩
  · obtain rfl : "0x5" = x := Except.ok.inj ((Text.decodeUtf8_utf8 "0x5").symm.trans hx)
    exact ⟨v, hall⟩
  · obtain ⟨f, hf⟩ := hnone "0x5" (Text.decodeUtf8_utf8 "0x5") "base.cfg" "CONFIG_" false 1
      octalContext.shared rfl
    have hok : (checkedEntry "base.cfg" "CONFIG_" ⟨⟨octal.name, "0x5", false⟩, 1⟩
        octalContext.shared).1 = .ok () := by rfl
    rw [hf] at hok
    cases hok

end Apply

end KernelConfig
