import KernelConfig.Proofs.Apply.TextWrites

/-!
Reading back: the text that a script is shown of a symbol can be written to the symbol again, and the
symbol is as it was. Only a symbol without a type of its own then holds the text in place of a value.
-/

set_option autoImplicit false

namespace KernelConfig

open Script (Machine Value)

namespace Symbol

/-- What is shown of a symbol that holds a value is a text that the symbol takes. With a declared type it
takes it as the value that it holds, and in any case the text stays. -/
theorem exists_coerceTo_text {s : Symbol} {v : SymbolValue} (hv : s.value = some v)
    (hf : v.Fits s.type s.range) : ∃ v', coerceTo s.type s.range (.auto s.text) = .ok v' ∧
      (s.type ≠ .auto → v' = v) ∧ ∀ p, (s.record v' p).text = s.text := by
  by_cases htype : s.type = .auto
  · exact ⟨.auto s.text, by rw [htype]; rfl, fun h => absurd htype h, fun _ => rfl⟩
  · refine ⟨v, coerceTo_text hv hf htype, fun _ => rfl, fun p => ?_⟩
    rw [text, text, hv]
    rfl

end Symbol

namespace Apply

variable {w : Surroundings} {c : Context} {before behind : List Symbol} {sym : Symbol}

/-- The getter for texts replies with the text of the symbol, and leaves the table. -/
theorem useCapability_getString (hsymbols : c.shared.table.symbols = before ++ sym :: behind)
    (hd : c.shared.table.Distinct) :
    let (reply, after) := c.useCapability w .getString [.text sym.name]
    reply = .ok [.text "ok", .text sym.text] ∧ after.shared.table = c.shared.table := by
  have hknown := SymbolTable.symbol?_between hsymbols hd
  have hcount : [Datum.text sym.name].length ≤ Capability.getString.parameters := Nat.le_refl 1
  have huse := useCapability_eq w c .getString [.text sym.name]
  rw [use_of_shows rfl (by decide) hcount,
    bind_run_ok (symbol_run_of_known (by rfl) hknown)] at huse
  rw [huse]
  exact ⟨rfl, rfl⟩

/-- The reply to a script that asks for the text of a symbol. -/
def shown (w : Surroundings) (c : Context) (m : Machine) (name : String) :
    Except Mishap (List Datum) × Context :=
  c.respond w m Capability.getString.guestName [.text name]

/-- The reply to a script that sets a symbol to a text; it may say where that comes from. -/
def written (w : Surroundings) (c : Context) (m : Machine) (name x : String) (rest : List Value) :
    Except Mishap (List Datum) × Context :=
  c.respond w m Capability.setAny.guestName (.text name :: .text x :: rest)

section

variable {env : List (String × String)} {name : String}
  (htable : c.shared.table = ⟨before ++ sym :: behind, env⟩)
  (hd : (⟨before ++ sym :: behind, env⟩ : SymbolTable).Distinct) (hname : sym.name = name)

include htable hd hname

theorem shown_eq (m : Machine) : (shown w c m name).1 = .ok [.text "ok", .text sym.text] ∧
    (shown w c m name).2.shared.table = ⟨before ++ sym :: behind, env⟩ := by
  subst hname
  have hdata : m.data [.text sym.name] = .ok [.text sym.name] := by
    rw [data_cons, Value.text, datum_string]
    rfl
  have huse := useCapability_getString (w := w) (by rw [htable]) (htable ▸ hd)
  rw [shown, respond_eq hdata, ← htable]
  exact huse

theorem written_eq {m : Machine} {rest : List Value} {origins : List Datum}
    (hrest : m.data rest = .ok origins) (hcount : rest.length ≤ 2) {x : String} {v : SymbolValue}
    (hv : Symbol.coerceTo sym.type sym.range (.auto x) = .ok v) :
    (written w c m name x rest).1 = .ok [.text "ok", .bool true] ∧
      (written w c m name x rest).2.shared.table = ⟨before ++
        sym.record v (origin c.caller (.text name :: .text x :: origins)) :: behind, env⟩ := by
  subst hname
  have hdata : m.data (.text sym.name :: .text x :: rest) =
      .ok (.text sym.name :: .text x :: origins) := by
    rw [data_cons, Value.text, datum_string, Except.bind, data_cons, Value.text, datum_string, hrest]
    rfl
  have hsetter : Capability.setAny ∈ Capability.textSetters sym.type := by
    cases sym.type <;> decide
  have horigins : origins.length ≤ 2 := by rwa [length_data hrest]
  have huse := (useCapability_text (w := w) hsetter (by rw [htable]) (htable ▸ hd) x horigins).1 v hv
  rw [htable] at huse
  rw [written, respond_eq hdata]
  exact huse

end

/-- After a symbol has taken a value, a script that writes the text that it is shown of the symbol is told
that the symbol has taken it. The symbol then shows the same text, and unless it has no type of its own it
holds the same value; the rest of the table is as it was. A value that has been taken is coerced to itself. -/
theorem reading_back_changes_nothing (w : Surroundings) (c : Context) (m₁ m₂ m₃ : Machine)
    {t : SymbolTable} {before behind : List Symbol} {sym : Symbol}
    (hsymbols : t.symbols = before ++ sym :: behind) (hd : t.Distinct) {given : SymbolValue}
    {p : Provenance} (hset : t.set sym given p = .ok c.shared.table) {rest : List Value}
    {origins : List Datum} (hrest : m₂.data rest = .ok origins) (hcount : rest.length ≤ 2) :
    ∃ v v' x q,
      let holding (s : Symbol) : SymbolTable := ⟨before ++ s :: behind, t.env⟩
      c.shared.table = holding (sym.record v p) ∧
      Symbol.coerceTo sym.type sym.range v = .ok v ∧ (sym.type ≠ .auto → v' = v) ∧
      let (reply, c) := shown w c m₁ sym.name
      reply = .ok [.text "ok", .text x] ∧ c.shared.table = holding (sym.record v p) ∧
      let (reply, c) := written w c m₂ sym.name x rest
      reply = .ok [.text "ok", .bool true] ∧
        c.shared.table = holding ((sym.record v p).record v' q) ∧
        (shown w c m₃ sym.name).1 = .ok [.text "ok", .text x] := by
  obtain ⟨v, hv, -⟩ := SymbolTable.set_eq_ok.mp hset
  have hfits := Symbol.coerceTo_fits hv
  have htable : c.shared.table = ⟨before ++ sym.record v p :: behind, t.env⟩ :=
    Except.ok.inj (hset.symm.trans (SymbolTable.set_between hsymbols hd hv p))
  obtain ⟨v', hv', hsame, htext⟩ :=
    Symbol.exists_coerceTo_text (s := sym.record v p) rfl hfits
  have hdistinct : ∀ s : Symbol, s.name = sym.name →
      (⟨before ++ s :: behind, t.env⟩ : SymbolTable).Distinct := by
    intro s hs
    have hnames : (⟨before ++ s :: behind, t.env⟩ : SymbolTable).names = t.names := by
      simp [SymbolTable.names, hsymbols, hs]
    rwa [SymbolTable.Distinct, hnames]
  -- The text is asked for, written, and asked for again.
  have hask := shown_eq (w := w) htable (hdistinct _ rfl) rfl m₁
  have hwrite := written_eq (w := w) hask.2 (hdistinct _ rfl) rfl hrest hcount hv'
  have hagain := shown_eq (w := w) hwrite.2 (hdistinct _ rfl) rfl m₃
  rw [htext] at hagain
  exact ⟨v, v', (sym.record v p).text, _, htable, Symbol.coerceTo_of_fits hfits, hsame, hask.1, hask.2,
    hwrite.1, hwrite.2, hagain.1⟩

/-- A number that is shown in hexadecimal. -/
def mask : Symbol where
  name := "MASK"
  type := .number
  hex := true
  range := some (1, 2 ^ 64 - 1)

def maskTable : SymbolTable where
  symbols := [{ name := "DEBUG", type := .boolean }, mask]

/-- The context of a script that finds the largest mask. -/
def maskContext : Context where
  caller := { source := "mask.cfg", loader := none }
  code := ""
  machine := none
  shared := { table := { symbols := [{ name := "DEBUG", type := .boolean },
    mask.record (.number 0xffffffffffffffff) ⟨"first.cfg", none⟩] } }

theorem reading_back_changes_nothing_mask :
    let m := Machine.start []
    maskTable.symbols = [{ name := "DEBUG", type := .boolean }] ++ mask :: [] ∧ maskTable.Distinct ∧
      maskTable.set mask (.auto "18446744073709551615") ⟨"first.cfg", none⟩ =
        .ok maskContext.shared.table ∧ m.data [] = .ok [] ∧
      ∃ x, let (reply, c) := shown {} maskContext m "MASK"
        reply = .ok [.text "ok", .text x] ∧
        let (reply, c) := written {} c m "MASK" x []
        reply = .ok [.text "ok", .bool true] ∧ (shown {} c m "MASK").1 = .ok [.text "ok", .text x] := by
  intro m
  have hsymbols : maskTable.symbols = [{ name := "DEBUG", type := .boolean }] ++ mask :: [] := rfl
  have hd : maskTable.Distinct := by decide
  have hset : maskTable.set mask (.auto "18446744073709551615") ⟨"first.cfg", none⟩ =
      .ok maskContext.shared.table := by rfl
  have hrest : m.data [] = .ok [] := rfl
  obtain ⟨_, _, x, _, -, -, -, hshown, -, hwritten, -, hagain⟩ :=
    reading_back_changes_nothing {} maskContext m m m hsymbols hd hset hrest (by decide)
  exact ⟨hsymbols, hd, hset, hrest, x, hshown, hwritten, hagain⟩

end Apply

end KernelConfig
