import KernelConfig.Apply.Context
import KernelConfig.Proofs.Namespace.Plan
import KernelConfig.Proofs.Script.Prepared
import KernelConfig.Proofs.Text.Utf8

/-!
The run of the prelude: executed before every script, it always leaves the same functions, and the
globals by which the program gets at them.
-/

set_option autoImplicit false

namespace KernelConfig.Context

open Script Script.Prelude

/-- Where the prelude leaves what it makes. -/
def places : Places where
  globals := 0
  symbol := 14
  coroutine := 5
  strings := 9
  ofStrings := 13
  loaded := 1
  package := 4
  os := 8
  debug := 12
  io := 7
  env := 0
  info := 1
  traceback := 2
  origin := 3
  setFrom := 5
  setter := 4
  expired := 7
  reraise := 8
  rawPcall := 9
  rawXpcall := 6
  guard := 11
  sethook := 10
  findOrigin := 1
  setFromHandle := 2
  new := 3
  set := 7
  call := 8
  wrap := 10
  bindSetter := 11
  run := 12
  guardCalls := 14
  setDeadline := 15
  define := 16

/-- The functions that the program uses. -/
def preludeHooks : PreludeHooks where
  wrap := .closure places.wrap
  bindHandleSetter := .closure places.bindSetter
  run := .closure places.run
  setDeadline := .closure places.setDeadline
  defineSymbols := .closure places.define

/-- The globals under which it finds them. -/
def hookGlobals : List (String × Value) :=
  [("__ak_wrap", preludeHooks.wrap), ("__ak_bind_handle_setter", preludeHooks.bindHandleSetter),
    ("__ak_run", preludeHooks.run), ("__ak_set_deadline", preludeHooks.setDeadline),
    ("__ak_define_symbols", preludeHooks.defineSymbols)]

/-- A chunk is executed in the first store. -/
def executed (chunk : Chunk) : Nat × Step :=
  let s := (loadChunk Library.initialStore chunk).1
  Script.execute 1000 s (Activation.enter s 0 [] none false 0 true)

/-- What is wanted of a prelude. -/
def preparesStore : Nat × Step → Bool
  | (_, .ret s _ []) => isPrepared places s &&
    hookGlobals.all fun e => s.getText places.globals e.1 = e.2
  | _ => false

/-- The keys of texts without capitals, and those that are reserved. -/
def isPlainKey : Key → Bool
  | .string b => b.all (fun c => c < 65 || 90 < c) || Namespace.reserved.any fun name => bytes name = b
  | _ => true

def leavesPlainGlobals : Nat × Step → Bool
  | (_, .ret s _ _) => (s.table places.globals).slots.toList.all fun e => isPlainKey e.1
  | _ => false

/-- The functions of a text. -/
def parsed (text : Bytes) : Chunk := match compile Prelude.source text with
  | .ok chunk => chunk
  | .error _ => #[]

/-- The lines of the prelude by their characters, which need not be taken out of the strings again. -/
def spelledLines : { spelled : List (List Char) // List.Forall₂ (· = String.ofList ·) lines spelled } :=
  ⟨_, by unfold lines; repeat constructor⟩

/-- The text of the prelude, in a form that is soon evaluated. -/
def quickText : Bytes := spelledLines.1.flatMap fun line => line.flatMap Text.utf8Char ++ [10]

theorem flatMap_bytes {ls : List String} {spelled : List (List Char)}
    (h : List.Forall₂ (· = String.ofList ·) ls spelled) :
    (ls.flatMap fun line => bytes line ++ [10]) =
      spelled.flatMap fun line => line.flatMap Text.utf8Char ++ [10] := by
  induction h with
  | nil => rfl
  | cons hline _ ih =>
    rw [List.flatMap_cons, List.flatMap_cons, ih, hline, bytes, Text.utf8, String.toList_ofList]

theorem text_eq : text = quickText := flatMap_bytes spelledLines.2

section

-- Nothing of the text is to be read here.
attribute [local irreducible] compile

theorem chunk_eq : chunk = parsed text := rfl

end

/-- The kernel reads the text of the prelude and executes it, once for all that is wanted to be known. -/
theorem executed_quickText : preparesStore (executed (parsed quickText)) = true ∧
    leavesPlainGlobals (executed (parsed quickText)) = true := by
  decide +kernel

theorem of_preparesStore {chunk chunk' : Chunk} (he : chunk = chunk')
    (h : preparesStore (executed chunk') = true) :
    ∃ left s a, executed chunk = (left, .ret s a []) ∧ Prepared places s ∧
      ∀ e ∈ hookGlobals, s.getText places.globals e.1 = e.2 := by
  subst he
  generalize executed chunk = result at h ⊢
  unfold preparesStore at h
  split at h
  · rename_i left s a
    simp only [Bool.and_eq_true, List.all_eq_true, decide_eq_true_eq] at h
    exact ⟨left, s, a, rfl, prepared_of_isPrepared h.1, h.2⟩
  · cases h

theorem prelude_executes : ∃ left s a, executed chunk = (left, .ret s a []) ∧ Prepared places s ∧
    ∀ e ∈ hookGlobals, s.getText places.globals e.1 = e.2 :=
  of_preparesStore (chunk_eq.trans (congrArg parsed text_eq)) executed_quickText.1

theorem of_leavesPlainGlobals {chunk chunk' : Chunk} (he : chunk = chunk')
    (h : leavesPlainGlobals (executed chunk') = true) {left : Nat} {s : Store} {a : Activation}
    {vs : List Value} (hexecuted : executed chunk = (left, .ret s a vs)) :
    ∀ e ∈ (s.table places.globals).slots.toList, isPlainKey e.1 = true := by
  rw [← he, hexecuted] at h
  exact List.all_eq_true.mp h

theorem exists_capital_byte {id : String} (h : Namespace.isEligible id = true) :
    ∃ b ∈ bytes id, 65 ≤ b ∧ b ≤ 90 := by
  obtain ⟨c, hc, hcapital⟩ := List.any_eq_true.mp h
  simp only [Namespace.isCapital, Bool.and_eq_true, decide_eq_true_eq, Char.le_def, UInt32.le_iff_toNat_le]
    at hcapital
  have hlow : 65 ≤ c.toNat := hcapital.1
  have hhigh : c.toNat ≤ 90 := hcapital.2
  have hbyte : Text.utf8Char c = [c.toNat.toUInt8] := by
    rw [Text.utf8Char, if_pos (by omega)]
  refine ⟨c.toNat.toUInt8, List.mem_flatMap.mpr ⟨c, hc, by simp [hbyte]⟩, ?_⟩
  simp only [UInt8.le_iff_toNat_le, Text.toNat_byte (show c.toNat < 256 by omega)]
  exact ⟨hlow, hhigh⟩

/-- Among the globals that the prelude leaves, its own and those of the libraries, none is written with a
capital, except those that are reserved. -/
theorem getText_globals_eq_nil {left : Nat} {s : Store} {a : Activation} {vs : List Value}
    (hexecuted : executed chunk = (left, .ret s a vs)) {id : String}
    (hel : Namespace.isEligible id = true) (hreserved : id ∉ Namespace.reserved) :
    s.getText places.globals id = .nil := by
  have hplain := of_leavesPlainGlobals (chunk_eq.trans (congrArg parsed text_eq)) executed_quickText.2
    hexecuted
  rcases (s.table places.globals).getText_cases id with hnil | ⟨slot, hslot⟩
  · exact hnil
  · obtain ⟨b, hb, hcapital⟩ := exists_capital_byte hel
    have hkey := hplain _ hslot
    simp only [isPlainKey, Bool.or_eq_true, List.all_eq_true, List.any_eq_true, decide_eq_true_eq] at hkey
    rcases hkey with hall | ⟨name, hname, heq⟩
    · rcases hall b hb with hlow | hhigh
      · exact absurd hcapital.1 (UInt8.not_le.mpr hlow)
      · exact absurd hcapital.2 (UInt8.not_le.mpr hhigh)
    · exact absurd (Text.utf8_injective heq ▸ hname) hreserved

end KernelConfig.Context
