import KernelConfig.Dotconfig.Document
import KernelConfig.Proofs.Text.Lines

/-!
Reading back what is written: a quoted text, a line that assigns a text to a name, and the comment
that a name is not set.
-/

set_option autoImplicit false

namespace KernelConfig.Dotconfig

/-! ### Quoted texts -/

theorem unescape_backslash (c : Char) (rest : List Char) :
    unescape ('\\' :: c :: rest) = c :: unescape rest := rfl

theorem unescape_cons {c : Char} (rest : List Char) (hc : c ≠ '\\') :
    unescape (c :: rest) = c :: unescape rest := by
  cases rest <;> simp [unescape, hc]

theorem unescape_escape (s : List Char) : unescape (escape s) = s := by
  induction s with
  | nil => rfl
  | cons c s ih =>
    by_cases h : c = '"' ∨ c = '\\'
    · rw [escape, if_pos (by simpa using h), unescape_backslash, ih]
    · rw [escape, if_neg (by simpa using h), unescape_cons _ (by tauto), ih]

theorem unquote_quote (s : List Char) : unquote (quote s) = some s := by
  have hl : 2 ≤ (quote s).length := by simp [quote]
  have he : (quote s).getLast? = some '"' := by
    rw [quote, List.getLast?_append_of_ne_nil _ (by simp)]
    rfl
  have hb : ((quote s).drop 1).dropLast = escape s := by simp [quote]
  simp only [unquote, hl, he, hb, unescape_escape]
  rfl

/-- Quoting adds quotes and backslashes only. -/
theorem mem_of_mem_escape {c : Char} {s : List Char} (h : c ∈ escape s) : c ∈ s ∨ c = '\\' := by
  induction s with
  | nil => simp [escape] at h
  | cons d s ih =>
    rw [escape] at h
    split at h
    · simp only [List.mem_cons] at h ⊢
      tauto
    · simp only [List.mem_cons] at h ⊢
      tauto

theorem mem_of_mem_quote {c : Char} {s : List Char} (h : c ∈ quote s) :
    c ∈ s ∨ c = '\\' ∨ c = '"' := by
  simp only [quote, List.cons_append, List.mem_cons, List.mem_append, List.not_mem_nil,
    or_false] at h
  rcases h with h | h | h
  · exact .inr (.inr h)
  · exact (mem_of_mem_escape h).imp_right .inl
  · exact .inr (.inr h)

/-! ### Names -/

/-- A text of name characters, as every symbol's name and every lead is. -/
def IsWord (s : List Char) : Prop := ∀ c ∈ s, isNameChar c = true

instance (s : List Char) : Decidable (IsWord s) :=
  List.decidableBAll (isNameChar · = true) s

theorem isNameChar_range {c : Char} (h : isNameChar c = true) :
    (48 ≤ c.toNat ∧ c.toNat ≤ 57) ∨ (65 ≤ c.toNat ∧ c.toNat ≤ 90) ∨ c.toNat = 95 ∨
      (97 ≤ c.toNat ∧ c.toNat ≤ 122) := by
  simp only [isNameChar, Bool.or_eq_true, Bool.and_eq_true, decide_eq_true_eq, Char.le_def,
    UInt32.le_iff_toNat_le] at h
  rcases h with ((h | h) | h) | h
  · exact .inr (.inl h)
  · exact .inr (.inr (.inr h))
  · exact .inl h
  · subst h; exact .inr (.inr (.inl rfl))

theorem isBlank_of_isNameChar {c : Char} (h : isNameChar c = true) : Text.isBlank c = false := by
  have hr := isNameChar_range h
  simp only [Text.isBlank, Text.inRanges, Text.blankRanges, List.any_cons, List.any_nil,
    Bool.or_false, Bool.or_eq_false_iff, Bool.and_eq_false_iff, decide_eq_false_iff_not]
  omega

theorem isLineBreak_of_not_isBlank {c : Char} (h : Text.isBlank c = false) :
    Text.isLineBreak c = false := by
  rw [Bool.eq_false_iff]
  intro hb
  simp only [Text.isLineBreak, Bool.or_eq_true, beq_iff_eq] at hb
  rcases hb with (((((((((rfl | rfl) | rfl) | rfl) | rfl) | rfl) | rfl) | rfl) | rfl) | rfl) <;>
    revert h <;> decide

theorem takeWhile_word {w : List Char} (rest : List Char) (hw : IsWord w)
    (hr : ∀ c, rest.head? = some c → isNameChar c = false) :
    (w ++ rest).takeWhile isNameChar = w ∧ (w ++ rest).dropWhile isNameChar = rest := by
  induction w with
  | nil =>
    cases rest with
    | nil => exact ⟨rfl, rfl⟩
    | cons c rest => simp [hr c rfl]
  | cons c w ih =>
    have hc : isNameChar c = true := hw c (by simp)
    have ih := ih fun d hd => hw d (by simp [hd])
    simp [hc, ih]

theorem afterLead_append (lead name : List Char) : afterLead lead (lead ++ name) = some name := by
  simp [afterLead]

theorem eq_append_of_afterLead {lead s name : List Char} (h : afterLead lead s = some name) :
    s = lead ++ name := by
  unfold afterLead at h
  split at h
  · rename_i hlead
    cases h
    exact (List.prefix_iff_eq_append.mp (List.isPrefixOf_iff_prefix.mp hlead)).symm
  · cases h

/-! ### Lines -/

theorem unsetName_of_head {line : List Char} (h : line.head? ≠ some '#') : unsetName line = none := by
  unfold unsetName
  split
  · simp at h
  · rfl

theorem isWord_append {lead name : List Char} (hlead : IsWord lead) (hname : IsWord name) :
    IsWord (lead ++ name) := by
  intro c hc
  exact (List.mem_append.mp hc).elim (hlead c) (hname c)

/-- A line that assigns a text, with or without blanks around it, is read as the name and the text. -/
theorem readLine_of_strip {lead name value raw : List Char} (hw : IsWord (lead ++ name))
    (hne : lead ++ name ≠ []) (hraw : Text.strip raw = lead ++ name ++ '=' :: value) :
    readLine lead raw = readValue name (Text.strip value) := by
  obtain ⟨c, w, hcw⟩ := List.exists_cons_of_ne_nil hne
  have hhash : (lead ++ name ++ '=' :: value).head? ≠ some '#' := by
    have hc : isNameChar c = true := hw c (by simp [hcw])
    rw [hcw]
    intro h
    cases h
    revert hc
    decide
  have hsplit : splitAssignment (lead ++ name ++ '=' :: value) = some (lead ++ name, value) := by
    have ht := takeWhile_word ('=' :: value) hw (by
      intro d hd
      cases hd
      decide)
    unfold splitAssignment
    simp only [ht.1, ht.2]
    simp [hne]
  have hempty : (lead ++ name ++ '=' :: value).isEmpty = false := by simp
  simp only [readLine, hraw, hempty, unsetName_of_head hhash, if_neg hhash, hsplit, afterLead_append]
  rfl

/-- The line that assigns a text, whatever its ends are. -/
theorem readLine_assigning {lead name : List Char} (hw : IsWord (lead ++ name)) (hne : lead ++ name ≠ [])
    (value : List Char) :
    readLine lead (lead ++ name ++ '=' :: value) = readValue name (Text.strip value) := by
  have hstart : Text.stripStart (lead ++ name ++ '=' :: value) = lead ++ name ++ '=' :: value := by
    obtain ⟨c, w, hcw⟩ := List.exists_cons_of_ne_nil hne
    refine Text.dropWhile_eq_self fun d hd => ?_
    rw [hcw] at hd
    cases hd
    exact isBlank_of_isNameChar (hw c (by simp [hcw]))
  have hstrip : Text.strip (lead ++ name ++ '=' :: value) = lead ++ name ++ '=' :: Text.stripEnd value := by
    rw [Text.strip, hstart, Text.stripEnd_append_cons (by decide)]
  rw [readLine_of_strip hw hne hstrip, Text.strip_stripEnd]

/-- The line that assigns a text without blanks at its ends. -/
theorem readLine_assignment {lead name value : List Char} (hlead : IsWord lead) (hname : IsWord name)
    (hne : lead ++ name ≠ []) (hfirst : ∀ c, value.head? = some c → Text.isBlank c = false)
    (hlast : ∀ c, value.getLast? = some c → Text.isBlank c = false) :
    readLine lead (lead ++ name ++ '=' :: value) = readValue name value := by
  rw [readLine_assigning (isWord_append hlead hname) hne, Text.strip_eq_self hfirst hlast]

/-- The comment that a symbol is not set is read as the letter for no. -/
theorem readLine_unset {lead name : List Char} (hlead : IsWord lead) (hname : IsWord name)
    (hne : name ≠ []) :
    readLine lead ('#' :: ' ' :: (lead ++ name) ++ " is not set".toList) =
      .ok (some ⟨String.ofList name, "n", false⟩) := by
  have hw := isWord_append hlead hname
  have hwne : lead ++ name ≠ [] := by simp [hne]
  obtain ⟨c, w, hcw⟩ := List.exists_cons_of_ne_nil hwne
  have hc : isNameChar c = true := hw c (by simp [hcw])
  have hend : " is not set".toList = [' ', 'i', 's', ' ', 'n', 'o', 't', ' ', 's', 'e', 't'] := by
    decide
  have hstrip : Text.strip ('#' :: ' ' :: (lead ++ name) ++ " is not set".toList) =
      '#' :: ' ' :: (lead ++ name) ++ " is not set".toList := by
    apply Text.strip_eq_self
    · intro d hd
      cases hd
      decide
    · intro d hd
      rw [List.getLast?_append_of_ne_nil _ (by simp [hend]), hend] at hd
      cases hd
      decide
  have ht := takeWhile_word " is not set".toList hw (by
    intro d hd
    rw [hend] at hd
    cases hd
    decide)
  have hdrop : (' ' :: (lead ++ name ++ " is not set".toList)).dropWhile Text.isBlank =
      lead ++ name ++ " is not set".toList := by
    have hspace : Text.isBlank ' ' = true := by decide
    rw [List.dropWhile_cons, if_pos hspace]
    apply Text.dropWhile_eq_self
    intro d hd
    rw [hcw] at hd
    cases hd
    exact isBlank_of_isNameChar hc
  have hunset : unsetName ('#' :: ' ' :: (lead ++ name) ++ " is not set".toList) =
      some (lead ++ name) := by
    simp only [unsetName, List.cons_append, hdrop, ht.1, ht.2]
    simp [hne]
  simp only [readLine, hstrip, hunset, afterLead_append]
  rfl

/-! ### Documents -/

/-- One document and another behind it, which is read only if nothing is wrong with the first. -/
def Document.followedBy (d e : Document) : Document :=
  if d.failure.isSome then d else ⟨d.entries ++ e.entries, e.failure⟩

theorem readLines_append (lead : List Char) (number : Nat) (before after : List (List Char)) :
    readLines lead number (before ++ after) =
      (readLines lead number before).followedBy (readLines lead (number + before.length) after) := by
  induction before generalizing number with
  | nil => simp [readLines, Document.followedBy]
  | cons raw before ih =>
    have hnumber : number + (raw :: before).length = number + 1 + before.length := by
      simp only [List.length_cons]
      omega
    rw [List.cons_append, hnumber, readLines, readLines]
    cases readLine lead raw with
    | error cause => rfl
    | ok a =>
      cases a with
      | none => exact ih (number + 1)
      | some a =>
        dsimp only
        rw [ih (number + 1)]
        unfold Document.followedBy
        split <;> rfl

end KernelConfig.Dotconfig
