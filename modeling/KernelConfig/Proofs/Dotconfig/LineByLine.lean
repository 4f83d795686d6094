import Mathlib.Data.List.TakeWhile
import KernelConfig.Files.Tree
import KernelConfig.Proofs.Dotconfig.Quoting
import KernelConfig.Proofs.Text.Utf8

/-!
Reading line by line: a line says the same wherever it stands, so of two documents, one behind the
other, the second is read as it would be alone, with its line numbers moved on. What is wrong in the
first is all that can keep it from being read.
-/

set_option autoImplicit false

namespace KernelConfig.Dotconfig

/-! ### Line numbers -/

def Entry.movedOn (n : Nat) (e : Entry) : Entry := { e with line := e.line + n }

def DocumentFault.movedOn (n : Nat) (f : DocumentFault) : DocumentFault := { f with line := f.line + n }

/-- A document with other lines before it. -/
def Document.movedOn (n : Nat) (d : Document) : Document where
  entries := d.entries.map (Entry.movedOn n)
  failure := d.failure.map (DocumentFault.movedOn n)

theorem readLines_add (lead : List Char) (number n : Nat) (ls : List (List Char)) :
    readLines lead (number + n) ls = (readLines lead number ls).movedOn n := by
  induction ls generalizing number with
  | nil => rfl
  | cons raw rest ih =>
    have hnext : number + n + 1 = number + 1 + n := by omega
    rw [readLines, readLines, hnext, ih (number + 1)]
    cases readLine lead raw with
    | error cause => rfl
    | ok a => cases a <;> rfl

/-- An entry has the number of a line that has been read. -/
theorem line_of_mem_readLines {e : Entry} {lead : List Char} {number : Nat} {ls : List (List Char)}
    (he : e ∈ (readLines lead number ls).entries) : number ≤ e.line ∧ e.line < number + ls.length := by
  fun_induction readLines lead number ls with
  | case1 => simp at he
  | case2 => simp at he
  | case3 number raw rest hr ih =>
    have hline := ih he
    rw [List.length_cons]
    omega
  | case4 number raw rest a hr d ih =>
    rw [List.length_cons]
    rcases List.mem_cons.mp he with rfl | he
    · exact ⟨Nat.le_refl number, by dsimp only; omega⟩
    · have hline := ih he
      omega

theorem pairwise_line_readLines (lead : List Char) (number : Nat) (ls : List (List Char)) :
    (readLines lead number ls).entries.Pairwise (·.line < ·.line) := by
  fun_induction readLines lead number ls with
  | case1 => exact .nil
  | case2 => exact .nil
  | case3 number raw rest hr ih => exact ih
  | case4 number raw rest a hr d ih =>
    exact .cons (fun e he => (line_of_mem_readLines he).1) ih

/-! ### What an entry says -/

/-- A value as it stands without quotes: no blanks at its ends, and no quote at its beginning. -/
structure IsBare (s : List Char) : Prop where
  first : ∀ c, s.head? = some c → Text.isBlank c = false ∧ c ≠ '"'
  last : ∀ c, s.getLast? = some c → Text.isBlank c = false

theorem isWord_of_append {lead name : List Char} (h : IsWord (lead ++ name)) : IsWord name :=
  fun c hc => h c (List.mem_append_right lead hc)

theorem isWord_of_unsetName {line name : List Char} (h : unsetName line = some name) : IsWord name := by
  unfold unsetName at h
  split at h
  · dsimp only at h
    split at h
    · cases h
      exact fun c => List.mem_takeWhile_imp
    · cases h
  · cases h

theorem isWord_of_splitAssignment {line name value : List Char}
    (h : splitAssignment line = some (name, value)) : IsWord name := by
  unfold splitAssignment at h
  dsimp only at h
  split at h
  · split at h
    · cases h
    · cases h
      exact fun c => List.mem_takeWhile_imp
  · cases h

theorem isBare_of_readValue {name value : List Char} {a : Assignment}
    (h : readValue name (Text.strip value) = .ok (some a)) :
    a.name = String.ofList name ∧ (a.quoted = false → IsBare a.value.toList) := by
  unfold readValue at h
  split at h
  · split at h
    · cases h
      exact ⟨rfl, fun hquoted => by cases hquoted⟩
    · cases h
  · rename_i hquote
    cases h
    refine ⟨rfl, fun _ => ?_⟩
    rw [String.toList_ofList]
    exact {
      first := fun c hc => ⟨Text.isBlank_of_end_strip (.inl hc), by rintro rfl; exact hquote hc⟩
      last := fun c hc => Text.isBlank_of_end_strip (.inr hc) }

/-- The name on a line is a word, and a value without quotes is bare. -/
theorem shape_of_readLine {lead raw : List Char} {a : Assignment}
    (hr : readLine lead raw = .ok (some a)) :
    IsWord a.name.toList ∧ (a.quoted = false → IsBare a.value.toList) := by
  rcases readLine_cases hr with ⟨name, hunset, rfl⟩ | ⟨name, value, hsplit, hvalue⟩
  · have hletter : "n".toList = ['n'] := by decide
    refine ⟨by simpa using isWord_of_append (isWord_of_unsetName hunset), fun _ => ?_⟩
    rw [hletter]
    refine ⟨?_, ?_⟩ <;> rintro c ⟨⟩ <;> decide
  · obtain ⟨hname, hbare⟩ := isBare_of_readValue hvalue
    refine ⟨?_, hbare⟩
    rw [hname, String.toList_ofList]
    exact isWord_of_append (isWord_of_splitAssignment hsplit)

/-! ### Documents -/

theorem read_append (lead : String) {before : String} (h : before = "" ∨ ∃ s, before = s ++ "\n")
    (behind : String) : read lead (before ++ behind) =
      (read lead before).followedBy ((read lead behind).movedOn (Text.lines before.toList).length) := by
  have hends : before.toList = [] ∨ ∃ u, before.toList = u ++ ['\n'] := by
    rcases h with rfl | ⟨s, rfl⟩
    · exact .inl rfl
    · exact .inr ⟨s.toList, String.toList_append⟩
  rw [read, String.toList_append, Text.lines_append hends, readLines_append, readLines_add]
  rfl

theorem read_universalNewlines (lead text : String) :
    read lead (String.ofList (Text.universalNewlines text.toList)) = read lead text := by
  rw [read, read, String.toList_ofList, Text.lines_universalNewlines]

/-- A document behind another one that is empty or ends with a line feed. If something is wrong in the
first, both together are read as the first alone; else the entries of the second follow with the numbers
of their lines moved on, and so does what is wrong in it. The entries of a document have growing numbers,
words as names, and values on one line. A file is read as the text in it, whichever line ends it has. -/
theorem documents_are_read_by_lines (lead : String) :
    (∀ before behind : String, (before = "" ∨ ∃ s, before = s ++ "\n") →
      let n := (Text.lines before.toList).length
      (∀ f, (read lead before).failure = some f → read lead (before ++ behind) = read lead before) ∧
      ((read lead before).failure = none → read lead (before ++ behind) =
        ⟨(read lead before).entries ++ (read lead behind).entries.map (Entry.movedOn n),
          (read lead behind).failure.map (DocumentFault.movedOn n)⟩)) ∧
    (∀ text, (read lead text).entries.Pairwise (·.line < ·.line) ∧
      ∀ e ∈ (read lead text).entries, IsWord e.name.toList ∧ Text.OnOneLine e.value ∧
        (e.quoted = false → IsBare e.value.toList)) ∧
    (∀ text, read lead (String.ofList (Text.universalNewlines text.toList)) = read lead text) ∧
    ∀ (files : Files.Tree) (path : Files.Path) (text : String),
      files.readBytes path = .ok (Text.utf8 text) →
        ∃ found, files.readText path = .ok found ∧ read lead found = read lead text := by
  refine ⟨fun before behind hends => ?_, fun text => ⟨pairwise_line_readLines _ _ _, fun e he => ?_⟩,
    read_universalNewlines lead, fun files path text hbytes => ?_⟩
  · refine ⟨fun f hf => ?_, fun hnone => ?_⟩
    · rw [read_append lead hends, Document.followedBy, hf]
      rfl
    · rw [read_append lead hends, Document.followedBy, hnone]
      rfl
  · obtain ⟨l, -, hr⟩ := exists_line_of_mem_readLines he
    obtain ⟨hname, hbare⟩ := shape_of_readLine hr
    exact ⟨hname, onOneLine_of_mem_read he, hbare⟩
  · refine ⟨_, ?_, read_universalNewlines lead text⟩
    simp only [Files.Tree.readText, hbytes, Text.decodeUtf8_utf8]

/-- A document with three kinds of line ends, and one behind it that is malformed in its second line. -/
theorem documents_are_read_by_lines_mixed :
    let before := "CONFIG_A=y\r\n# CONFIG_B is not set\u2028\n"
    let behind := "CONFIG_C= \"x\\\"\" \njunk\nCONFIG_D=m"
    (∃ s, before = s ++ "\n") ∧ (read "CONFIG_" before).failure = none ∧
      read "CONFIG_" (before ++ behind) =
        ⟨(read "CONFIG_" before).entries ++ (read "CONFIG_" behind).entries.map (Entry.movedOn 3),
          (read "CONFIG_" behind).failure.map (DocumentFault.movedOn 3)⟩ ∧
      (read "CONFIG_" behind).failure = some ⟨2, .malformed "junk"⟩ := by
  intro before behind
  have hends : ∃ s, before = s ++ "\n" := ⟨"CONFIG_A=y\r\n# CONFIG_B is not set\u2028", by decide⟩
  have hnone : (read "CONFIG_" before).failure = none := by decide +kernel
  have hlength : (Text.lines before.toList).length = 3 := by decide +kernel
  have hboth := ((documents_are_read_by_lines "CONFIG_").1 before behind (.inr hends)).2 hnone
  rw [hlength] at hboth
  exact ⟨hends, hnone, hboth, by decide +kernel⟩

end KernelConfig.Dotconfig
