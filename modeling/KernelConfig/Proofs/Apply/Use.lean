import KernelConfig.Apply.Capability
import KernelConfig.Proofs.Apply.Run
import KernelConfig.Proofs.Symbol.Typing

/-!
What a use of a capability can do: a use that does not load another source leaves the table as it is
or sets one of its symbols.
-/

set_option autoImplicit false

namespace KernelConfig.Apply

variable {α β : Type}

/-- A program that leaves the state as it is, and whose result has a relation to it. -/
def Reads (P : ApplyState → α → Prop) (x : Apply α) : Prop :=
  ∀ s, (∃ a, x s = (.ok a, s) ∧ P s a) ∨ ∃ e, x s = (.error e, s)

theorem moves_of_reads {Q : ApplyState → ApplyState → Prop} [Std.Refl Q] {P : ApplyState → α → Prop}
    {x : Apply α} (h : Reads P x) : Moves Q x := by
  intro s
  rcases h s with ⟨a, ha, -⟩ | ⟨e, he⟩
  · rw [ha]
    exact Std.Refl.refl s
  · rw [he]
    exact Std.Refl.refl s

theorem textArgument_run {d : Datum} {x : String} (h : d.asText? = some x) (what : String) (s : ApplyState) :
    textArgument what d s = (.ok x, s) := by
  rw [textArgument, h]
  rfl

theorem reads_textArgument (what : String) (d : Datum) :
    Reads (fun _ _ => True) (textArgument what d) := by
  intro s
  unfold textArgument
  cases d.asText? with
  | some x => exact .inl ⟨x, rfl, trivial⟩
  | none => exact .inr ⟨_, rfl⟩

theorem reads_converted (r : Except ConversionFault α) : Reads (fun _ _ => True) (converted r) := by
  intro s
  cases r with
  | ok a => exact .inl ⟨a, rfl, trivial⟩
  | error f => exact .inr ⟨_, rfl⟩

/-- The symbol that a script names is one of the table. -/
theorem reads_symbol (w : Surroundings) (c : Caller) (name : Datum) :
    Reads (fun s sym => s.table.symbol? sym.name = some sym) (symbol w c name) := by
  intro s
  dsimp only
  unfold symbol
  rcases reads_textArgument "symbol name" name s with ⟨x, hx, -⟩ | ⟨e, he⟩
  · rw [bind_run_ok hx, bind_run_ok (table_run s)]
    cases hs : s.table.symbol? x with
    | none => exact .inr ⟨_, rfl⟩
    | some sym =>
      exact .inl ⟨sym, rfl, by rw [SymbolTable.name_of_symbol? hs, hs]⟩
  · rw [bind_run_error he]
    exact .inr ⟨e, rfl⟩

/-- The end of a use that loads nothing: the table is as before, or it has taken a value. -/
structure Settles (s : ApplyState) (r : Except Failure (List Datum)) (s' : ApplyState) : Prop where
  journal : s'.journal = s.journal
  ticks : s'.ticks = s.ticks
  bound : s'.logger.bound = s.logger.bound
  table : s'.table = s.table ∨ ∃ sym v p, s.table.symbol? sym.name = some sym ∧
    s.table.set sym v p = .ok s'.table ∧ r = .ok [.bool true]

theorem settles_same (s : ApplyState) (r : Except Failure (List Datum)) : Settles s r s :=
  ⟨rfl, rfl, rfl, .inl rfl⟩

theorem settles_reads_bind {P : ApplyState → α → Prop} {x : Apply α} {f : α → Apply (List Datum)}
    {s : ApplyState} (hx : Reads P x)
    (hf : ∀ a, P s a → Settles s (f a s).1 (f a s).2) :
    Settles s ((x >>= f) s).1 ((x >>= f) s).2 := by
  rcases hx s with ⟨a, ha, hp⟩ | ⟨e, he⟩
  · rw [bind_run_ok ha]
    exact hf a hp
  · rw [bind_run_error he]
    exact settles_same s _

theorem settles_assign (c : Caller) {sym : Symbol} (v : SymbolValue) (source traceback : Datum)
    {s : ApplyState} (hs : s.table.symbol? sym.name = some sym) :
    Settles s (assign c sym v source traceback s).1 (assign c sym v source traceback s).2 := by
  unfold assign
  rw [bind_run_ok (table_run s)]
  cases ht : s.table.set sym v ⟨source.asText?.getD c.source, traceback.asText?⟩ with
  | ok t => exact ⟨rfl, rfl, rfl, .inr ⟨sym, v, _, hs, ht, rfl⟩⟩
  | error r => exact ⟨rfl, rfl, Log.Logger.bound_emit _ _, .inl rfl⟩

theorem settles_use (w : Surroundings) (c : Caller) {what : Capability} (hwhat : what ≠ .load)
    (arguments : List Datum) (s : ApplyState) :
    Settles s (use w c what arguments s).1 (use w c what arguments s).2 := by
  unfold use
  lift_lets
  intro argument set value
  have hset : ∀ sym v, s.table.symbol? sym.name = some sym →
      Settles s (set sym v s).1 (set sym v s).2 := fun sym v hs => settles_assign c v _ _ hs
  by_cases hn : what.parameters < arguments.length
  · rw [if_pos hn, bind_run_error (throw_run _ s)]
    exact settles_same s _
  · rw [if_neg hn]
    cases what with
    | load => exact absurd rfl hwhat
    | getString => exact settles_reads_bind (reads_symbol w c _) fun _ _ => settles_same s _
    | getType => exact settles_reads_bind (reads_symbol w c _) fun _ _ => settles_same s _
    | setAuto =>
      refine settles_reads_bind (reads_symbol w c _) fun sym hs => ?_
      exact settles_reads_bind (reads_textArgument _ _) fun x _ => hset sym _ hs
    | setBool =>
      refine settles_reads_bind (reads_symbol w c _) fun sym hs => ?_
      cases value with
      | bool b => exact hset sym _ hs
      | _ => exact settles_same s _
    | setNumber =>
      refine settles_reads_bind (reads_symbol w c _) fun sym hs => ?_
      exact settles_reads_bind (reads_converted _) fun x _ => hset sym _ hs
    | setTristate =>
      refine settles_reads_bind (reads_symbol w c _) fun sym hs => ?_
      exact settles_reads_bind (reads_converted _) fun x _ => hset sym _ hs
    | setAny =>
      refine settles_reads_bind (reads_symbol w c _) fun sym hs => ?_
      exact settles_reads_bind (reads_converted _) fun x _ => hset sym _ hs

/-- A use that loads another source. -/
theorem use_load (w : Surroundings) (c : Caller) (arguments : List Datum) :
    use w c .load arguments =
      if 2 < arguments.length then throw (.mishap (Capability.load.tooManyArguments arguments.length))
      else loadFrom w c (arguments.getD 0 .null) (arguments.getD 1 .null) := by
  unfold use
  by_cases hn : Capability.load.parameters < arguments.length
  · have hn' : 2 < arguments.length := hn
    simp only [if_pos hn, if_pos hn']
    rfl
  · have hn' : ¬ 2 < arguments.length := hn
    simp only [if_neg hn, if_neg hn']

end KernelConfig.Apply
