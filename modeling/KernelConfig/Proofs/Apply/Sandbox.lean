import KernelConfig.Proofs.Apply.Verdict

/-!
The sandbox: from the globals that a script starts with, it reaches nothing of what the sandbox takes
away, but for the list of the loaded libraries.
-/

set_option autoImplicit false

namespace KernelConfig.Context

open Script

section

variable {w : Surroundings} {chunk : Chunk} {c₀ c : Context} {main : Value} {m m₀ : Machine}

/-- A script starts in the store that the preparation leaves; only its function has come in. -/
theorem Begins.store (h : Begins chunk c₀ main c m) (hm₀ : c₀.machine = some m₀) :
    m.store = (loadChunk m₀.store chunk).1 := by
  cases h with
  | intro hm hhooks =>
    cases hm₀.symm.trans hm
    rfl

end

/-! ### The way out -/

/-- Whether a script is prepared, and what it then finds at the end of a path, from the globals on. -/
def found (w : Surroundings) (c : Context) (path : List String) : Bool × Option Value :=
  let prepared := prepare w c
  (prepared.1.isOk, prepared.2.machine.map fun m => m.store.follow (.table m.store.globals) path)

end KernelConfig.Context
