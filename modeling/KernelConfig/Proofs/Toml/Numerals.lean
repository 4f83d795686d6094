import Mathlib.Data.List.Infix
import KernelConfig.Toml.Document

/-!
Documents of declarations are read from left to right: each reader leaves an end of the text that it is
given. So a decimal integer that is too long is a stretch of digits in the text of the document.
-/

set_option autoImplicit false

namespace KernelConfig.Toml

variable {α β : Type} {s t : List Char}

def isDigit (c : Char) : Bool := (Text.digitOf? 10 c).isSome

/-- There is a stretch of digits and underscores with more than 4300 digits. -/
def LongNumeral (s : List Char) : Prop :=
  ∃ run, run <:+: s ∧ (∀ c ∈ run, isDigit c = true ∨ c = '_') ∧ 4300 < run.countP isDigit

theorem LongNumeral.of_suffix (h : LongNumeral t) (hs : t <:+ s) : LongNumeral s :=
  let ⟨run, hrun, hdigits⟩ := h
  ⟨run, hrun.trans hs.isInfix, hdigits⟩

/-- What a reader makes of a text: some end of it is left, or the text is malformed, or there is a numeral
in it that is too long. -/
inductive Consumes {α : Type} (left : α → List Char) (s : List Char) : Except Defect α → Prop
  | ok {a : α} (h : left a <:+ s) : Consumes left s (.ok a)
  | malformed : Consumes left s (.error .malformed)
  | oversized {n : Nat} (h : LongNumeral s) : Consumes left s (.error (.oversized n))

namespace Consumes

variable {left : α → List Char} {next : β → List Char} {x : Except Defect α}

theorem of_suffix (h : Consumes left t x) (hs : t <:+ s) : Consumes left s x := by
  cases h with
  | ok h => exact .ok (h.trans hs)
  | malformed => exact .malformed
  | oversized h => exact .oversized (h.of_suffix hs)

theorem cons (h : Consumes left s x) (c : Char) : Consumes left (c :: s) x :=
  h.of_suffix (List.suffix_cons c s)

theorem bind (hx : Consumes left s x) {f : α → Except Defect β}
    (hf : ∀ a, left a <:+ s → Consumes next (left a) (f a)) : Consumes next s (x >>= f) := by
  cases hx with
  | ok h => exact (hf _ h).of_suffix h
  | malformed => exact .malformed
  | oversized h => exact .oversized h

theorem map (hx : Consumes left s x) (f : α → β) (hf : ∀ a, next (f a) <:+ left a) :
    Consumes next s (x.map f) := by
  cases hx with
  | ok h => exact .ok ((hf _).trans h)
  | malformed => exact .malformed
  | oversized h => exact .oversized h

theorem error {d : Defect} (h : Consumes left s (.error d)) :
    Consumes next s (.error d : Except Defect β) := by
  cases h with
  | malformed => exact .malformed
  | oversized h => exact .oversized h

end Consumes

variable {rest : List Char}

end KernelConfig.Toml
