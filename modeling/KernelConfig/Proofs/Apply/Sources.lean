import KernelConfig.Apply.Source
import KernelConfig.Proofs.Apply.Stepping
import KernelConfig.Proofs.Apply.Use

/-!
What applying a source can do: log, change the table entry by entry, and for a script whatever its
uses of capabilities do.
-/

set_option autoImplicit false

namespace KernelConfig.Apply

/-- A relation between states that looks at the table, the journal and what is bound only. -/
def Blind (Q : ApplyState → ApplyState → Prop) : Prop :=
  ∀ s s' : ApplyState, s'.table = s.table → s'.journal = s.journal →
    s'.logger.bound = s.logger.bound → Q s s'

variable {Q : ApplyState → ApplyState → Prop} [IsPreorder ApplyState Q]

theorem moves_entries (source : String) (d : Dotconfig.Document) {apply : Dotconfig.Entry → Apply Unit}
    (h : ∀ e, Moves Q (apply e)) : Moves Q (entries source d apply) := by
  refine moves_bind (moves_forM _ h) fun _ => ?_
  split
  · exact moves_fail _
  · exact moves_pure _

theorem moves_readSourceFile (w : Surroundings) (path : Files.Path) : Moves Q (readSourceFile w path) :=
  moves_bind (moves_readSource w _ path) fun _ => moves_pure _

section Declarative

variable (hlogs : Logs Q)

include hlogs

theorem moves_checked (hset : ∀ (s : ApplyState) sym v p t, s.table.symbol? sym.name = some sym →
      s.table.set sym v p = .ok t → Q s { s with table := t })
    (w : Surroundings) (source text : String) : Moves Q (checked w source text) := by
  refine hlogs.scope _ ?_
  refine moves_bind (hlogs.log _ _ _) fun _ => ?_
  refine moves_bind (moves_entries _ _ fun e => ?_) fun _ => hlogs.log _ _ _
  intro s
  unfold checkedEntry
  rw [bind_run_ok (table_run s)]
  cases hs : s.table.symbol? e.name with
  | none => exact Std.Refl.refl s
  | some sym =>
    dsimp only
    cases ht : s.table.set sym (.auto e.value)
        ⟨source, some (source ++ ":" ++ Text.decimal e.line)⟩ with
    | ok t => exact hset s sym _ _ t (by rw [SymbolTable.name_of_symbol? hs, hs]) ht
    | error r => exact Std.Refl.refl s

theorem moves_unchecked (hraw : ∀ (s : ApplyState) sym text source,
      s.table.symbol? sym.name = some sym → Q s { s with table := s.table.assignRaw sym text source })
    (w : Surroundings) (path : Files.Path) (lead : String) : Moves Q (unchecked w path lead) := by
  refine moves_bind (moves_readSource w _ path) fun text => ?_
  refine moves_bind moves_table fun t => ?_
  refine moves_bind (moves_entries _ _ fun e => ?_) fun _ => hlogs.log _ _ _
  intro s
  unfold uncheckedEntry
  rw [bind_run_ok (table_run s)]
  cases hs : s.table.symbol? e.name with
  | none => exact Std.Refl.refl s
  | some sym => exact hraw s sym _ _ (by rw [SymbolTable.name_of_symbol? hs, hs])

theorem moves_loadFrom (w : Surroundings) (c : Caller) (path nocheck : Datum)
    (hload : ∀ load, c.loader = some load → ∀ path, Moves Q (load path nocheck.isTruthy)) :
    Moves Q (loadFrom w c path nocheck) := by
  refine moves_bind (moves_of_reads (reads_textArgument _ _)) fun x => ?_
  dsimp only
  split
  · exact moves_fail _
  · rename_i load hl
    refine moves_bind (hlogs.log _ _ _) fun _ => moves_bind ?_ fun _ => moves_pure _
    refine moves_onFault (hload load hl _) fun f => ?_
    split
    · exact moves_fail _
    · exact moves_fail _

end Declarative

/-- A relation that each use of a capability by a script stays in, as one between contexts. -/
theorem tolerant_of_used {w : Surroundings} {caller : Caller} (hblind : Blind Q)
    (hused : ∀ what arguments, Moves Q (used w caller what arguments)) :
    Context.Tolerant w fun c c' =>
      c.caller = caller → c'.caller = caller ∧ Q c.shared c'.shared where
  refl c hc := ⟨hc, Std.Refl.refl _⟩
  trans a b c hab hbc ha :=
    have hb := hab ha
    have hc := hbc hb.1
    ⟨hc.1, IsTrans.trans _ _ _ hb.2 hc.2⟩
  bookkeeping c c' hcore hc :=
    ⟨(congrArg (·.caller) hcore).trans hc, hblind _ _ (congrArg (·.table) hcore)
      (congrArg (·.journal) hcore) (congrArg (·.bound) hcore)⟩
  use c what arguments hc := by
    have hu := hused what arguments c.shared
    rw [← hc] at hu ⊢
    unfold Context.useCapability
    generalize used w c.caller what arguments c.shared = result at hu ⊢
    obtain ⟨(f | m) | results, shared⟩ := result
    · dsimp only
      split <;> exact ⟨rfl, hu⟩
    · exact ⟨rfl, hu⟩
    · exact ⟨rfl, hu⟩

theorem moves_inContext {caller : Caller} {start : ApplyState → Context} {steps : Stepping Unit}
    (hopened : ∀ s, Q s (s.note (.opened caller.depth caller.source)))
    (hclosed : ∀ s stage outcome, Q s (s.note (.closed caller.depth stage outcome)))
    (hsteps : ∀ s, Q s (steps (start s)).2.shared) : Moves Q (inContext caller start steps) := by
  intro s
  have hrun := hsteps (s.note (.opened caller.depth caller.source))
  exact IsTrans.trans _ _ _ (hopened s) (IsTrans.trans _ _ _ hrun (hclosed _ _ _))

theorem moves_script {w : Surroundings} {loader : Option Loader} {name : String} {depth : Int}
    (hblind : Blind Q) (hlogs : Logs Q) (hopened : ∀ s, Q s (s.note (.opened depth name)))
    (hclosed : ∀ s stage outcome, Q s (s.note (.closed depth stage outcome)))
    (hused : ∀ what arguments,
      Moves Q (used w { source := name, depth, loader } what arguments)) (text : String) :
    Moves Q (script w loader name text depth) := by
  have hexecute := (tolerant_of_used hblind hused).execute
  refine hlogs.scope _ ?_
  refine moves_bind (hlogs.log _ _ _) fun _ => ?_
  refine moves_bind (moves_onFault ?_ fun f => ?_) fun _ => hlogs.log _ _ _
  · exact moves_inContext hopened hclosed fun s => (hexecute (Context.new w _ text s) rfl).2
  · exact moves_bind (hlogs.log _ _ _) fun _ => moves_fail f

end KernelConfig.Apply
