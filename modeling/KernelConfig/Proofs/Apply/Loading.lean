import KernelConfig.Apply.Source
import KernelConfig.Proofs.Apply.Use
import KernelConfig.Proofs.Apply.Verdict
import KernelConfig.Proofs.Toml.Numerals
import KernelConfig.Symbol.Declaration

/-!
Loading sources: a file that is a text is applied to its end or there is a fault, and a script that loads
a source gets a reply in any case.
-/

set_option autoImplicit false

namespace KernelConfig

/-! ### Files that are texts -/

namespace Files.Tree

/-- A path that can be asked for, where a file, if there is one, is a text. -/
structure Legible (t : Tree) (p : Path) : Prop where
  noNull : p.toString.contains '\x00' = false
  decodes : ∀ place content, t.find p = .ok (place, .file content) →
    ∃ text, Text.decodeUtf8 content = .ok text

variable {t : Tree} {p : Path}

theorem Legible.readText (h : t.Legible p) :
    (∃ text, t.readText p = .ok text) ∨ ∃ f, t.readText p = .error (.os f) := by
  unfold Tree.readText readBytes
  rw [h.noNull]
  simp only [Bool.false_eq_true, if_false]
  rcases hfind : t.find p with code | ⟨place, content | _⟩
  · exact .inr ⟨_, rfl⟩
  · obtain ⟨text, htext⟩ := h.decodes place content hfind
    simp only [htext]
    exact .inl ⟨_, rfl⟩
  · exact .inr ⟨_, rfl⟩

end Files.Tree

/-! ### Results and faults -/

/-- There is a result or a fault: nothing has gone wrong outside the rules for symbols and sources. -/
inductive Regular {α : Type} : Except Failure α → Prop
  | ok (a : α) : Regular (.ok a)
  | fault (f : Fault) : Regular (.error (.fault f))

namespace Apply

variable {α β : Type} {w : Surroundings}

theorem regular_bind {x : Apply α} {f : α → Apply β} {s : ApplyState} (hx : Regular (x s).1)
    (hf : ∀ a s', x s = (.ok a, s') → Regular (f a s').1) : Regular ((x >>= f) s).1 := by
  rw [bind_run]
  rcases hr : x s with ⟨e | a, s'⟩ <;> rw [hr] at hx
  · cases hx
    exact .fault _
  · exact hf a s' hr

/-- A part of an apply that is regular in every state. -/
def Regularly (x : Apply α) : Prop := ∀ s, Regular (x s).1

theorem Regularly.bind {x : Apply α} {f : α → Apply β} (hx : Regularly x) (hf : ∀ a, Regularly (f a)) :
    Regularly (x >>= f) := fun s => regular_bind (hx s) fun a s' _ => hf a s'

end Apply

/-! ### Scripts -/

namespace Context

open Script

variable {w : Surroundings} {c : Context}

end Context

namespace Apply

variable {w : Surroundings}

/-- The state in which a script is begun, in a scope of its own. -/
def scriptStart (name : String) (depth : Int) (s : ApplyState) : ApplyState :=
  let logger := s.logger.bind [("source", .text name), ("depth", .int depth)]
  { s with
    logger := logger.emit
      { level := .info, name := "config.apply.started", fields := [("kind", .text "lua")] } }

variable {path : Files.Path} {s : ApplyState}

/-- How a source at a depth applies others, one level at a time. -/
theorem loader_eq (w : Surroundings) (depth : Int) : loader w depth =
    if depth < w.settings.maxLoadDepth then
      some fun path nocheck =>
        if nocheck then unchecked w path w.settings.symbolLead
        else do
          let s ← readSourceFile w path
          sourceWith w (loader w (depth + 1)) s (depth + 1)
    else none := by
  unfold loader
  by_cases hdepth : depth < w.settings.maxLoadDepth
  · rw [if_pos hdepth, show (w.settings.maxLoadDepth - depth).toNat =
      (w.settings.maxLoadDepth - (depth + 1)).toNat + 1 by omega]
    rfl
  · rw [if_neg hdepth, show (w.settings.maxLoadDepth - depth).toNat = 0 by omega]
    rfl

variable {α β : Type}

end Apply

end KernelConfig
