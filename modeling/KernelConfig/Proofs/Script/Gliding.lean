import KernelConfig.Proofs.Script.Prepared
import KernelConfig.Proofs.Script.Ticks

/-!
Gliding: stretches of instructions that only move values about, followed at once.
-/

set_option autoImplicit false

namespace KernelConfig.Script

/-- Instructions that change nothing but the function's own values. -/
def Instr.isPlain : Instr → Bool
  | push _ | pop | getSlot _ | newSlot _ | getUpvalue _ | index _ | field .. | method .. | compare _
  | jump _ | jumpUnless _ | jumpUnlessKeep _ | jumpIfKeep _ | iterateTest .. | varargs _ => true
  | _ => false

namespace Activation

def code (a : Activation) : List Instr := a.function.ops.toList.map (·.instr)

theorem step_of_code {a : Activation} {code : List Instr} (hcode : a.code = code) (s : Store) :
    a.step s = match code[a.pc]? with
      | some i => Step.instruction s { a with pc := a.pc + 1 } i
      | none => .ret s a [] := by
  rw [← hcode, Activation.code, List.getElem?_map, Array.getElem?_toList, step]
  cases a.function.ops[a.pc]? <;> rfl

theorem step_of_instruction {a : Activation} {code : List Instr} {i : Instr} (hcode : a.code = code)
    (hi : code[a.pc]? = some i) (s : Store) :
    a.step s = Step.instruction s { a with pc := a.pc + 1 } i := by
  rw [step_of_code hcode, hi]

theorem getSlot_value {a : Activation} {k : Nat} {v : Value} (s : Store)
    (h : a.slots.getD k (.value .nil) = .value v) : a.getSlot s k = v := by
  rw [getSlot, h]

/-- Where a function is after so many plain instructions. -/
def glide (s : Store) (code : List Instr) : Nat → Activation → Option Activation
  | 0, a => some a
  | n + 1, a =>
    match code[a.pc]? with
    | some i =>
      if i.isPlain then match Step.instruction s { a with pc := a.pc + 1 } i with
        | .next _ a => glide s code n a
        | _ => none
      else none
    | none => none

theorem next_of_isPlain {s s' : Store} {a a' : Activation} {i : Instr} (hi : i.isPlain = true)
    (h : Step.instruction s a i = .next s' a') :
    s' = s ∧ a'.function = a.function ∧ a'.toClose = a.toClose := by
  have hoc : ∀ (a : Activation) o left right event await,
      Step.ofOutcome s a o left right event await = .next s' a' →
        s' = s ∧ a'.function = a.function ∧ a'.toClose = a.toClose := by
    intro a o left right event await h
    cases o <;> cases h
    exact ⟨rfl, rfl, rfl⟩
  cases i <;> simp only [Instr.isPlain, Bool.false_eq_true] at hi <;> simp only [Step.instruction] at h
  case push | pop | getSlot | newSlot | getUpvalue | jump => cases h; exact ⟨rfl, rfl, rfl⟩
  case index | field =>
    split at h
    · have hsame := hoc _ _ _ _ _ _ h
      exact hsame
    · cases h
  case method =>
    split at h
    · split at h <;> cases h
      exact ⟨rfl, rfl, rfl⟩
    · cases h
  case compare =>
    split at h
    · split at h <;> cases h
      exact ⟨rfl, rfl, rfl⟩
    · cases h
  case jumpUnless | jumpUnlessKeep | jumpIfKeep =>
    split at h <;> cases h <;> exact ⟨rfl, rfl, rfl⟩
  case iterateTest =>
    split at h <;> cases h <;> exact ⟨rfl, rfl, rfl⟩
  case varargs want =>
    cases h
    unfold Step.pushAll
    split <;> exact ⟨rfl, rfl, rfl⟩

theorem instruction_closure {a : Activation} {index : Nat} {captures : List Capture}
    (h : (a.chunk.getD index default).captures = captures) (s : Store) :
    Step.instruction s a (.closure index) =
      match capture s a captures #[] with
      | (s, a, upvalues) =>
        .next (s.addClosure { chunk := a.chunk, index, upvalues }).1
          (a.push (.closure s.closures.size)) := by
  rw [Step.instruction, h]
  rfl

/-- The activation of a function of the prelude, however it was called. -/
theorem enter_eq {s : Store} {id index : Nat} {upvalues : List Nat} {shape : Shape}
    (h : s.HasFunction id index upvalues) (hshape : (index, shape) ∈ Prelude.shapes)
    (args : List Value) (origin : Option Origin) (isTail : Bool) (extraArguments : Nat)
    (isNested : Bool) :
    (s.closure id).function.ops.toList.map (·.instr) = shape.code ∧
      enter s id args origin isTail extraArguments isNested =
        { closure := id, chunk := (s.closure id).chunk, function := (s.closure id).function
          upvalues := upvalues.toArray
          slots := fillSlots (Array.replicate shape.slots (.value .nil)) 0 shape.parameters args
          varargs := if shape.varargs then args.drop shape.parameters else []
          origin, isTail, extraArguments, isNested } := by
  have hf : (s.closure id).function.shape = shape := by
    rw [Closure.function, h.index]
    exact h.known.shapes _ hshape
  refine ⟨congrArg Shape.code hf, ?_⟩
  have hparameters : (s.closure id).function.parameters = shape.parameters :=
    congrArg Shape.parameters hf
  have hslots : (s.closure id).function.slots = shape.slots := congrArg Shape.slots hf
  have hvarargs : (s.closure id).function.varargs = shape.varargs := congrArg Shape.varargs hf
  have hupvalues : (s.closure id).upvalues = upvalues.toArray := by simp [← h.upvalues]
  simp only [enter, hparameters, hslots, hvarargs, hupvalues]

/-- The activation of a function of the prelude that the host or the prelude has called. -/
theorem enter_of_hasFunction {s : Store} {id index : Nat} {upvalues : List Nat} {shape : Shape}
    (h : s.HasFunction id index upvalues) (hshape : (index, shape) ∈ Prelude.shapes)
    (args : List Value) (origin : Option Origin) (isNested : Bool) :
    ∃ f : Function, (f.ops.toList.map (·.instr)) = shape.code ∧
      enter s id args origin false 0 isNested =
        { closure := id, chunk := (s.closure id).chunk, function := f, upvalues := upvalues.toArray
          slots := fillSlots (Array.replicate shape.slots (.value .nil)) 0 shape.parameters args
          varargs := if shape.varargs then args.drop shape.parameters else []
          origin, isTail := false, extraArguments := 0, isNested } :=
  ⟨_, enter_eq h hshape args origin false 0 isNested⟩

end Activation

end KernelConfig.Script
