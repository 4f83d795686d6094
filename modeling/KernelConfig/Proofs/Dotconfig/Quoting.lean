import KernelConfig.Proofs.Apply.Reload

/-!
Quoting and reading: a line that assigns a quoted text gives the text back exactly when the text stays
on its line. The values that are read are pieces of lines, so no other text could come back.
-/

set_option autoImplicit false

namespace KernelConfig.Dotconfig

/-! ### What is read is a piece of a line -/

theorem mem_of_mem_strip {c : Char} {s : List Char} (h : c ∈ Text.strip s) : c ∈ s := by
  simp only [Text.strip, Text.stripEnd, Text.stripStart, List.mem_reverse] at h
  have h := (List.dropWhile_suffix _).subset h
  exact (List.dropWhile_suffix _).subset (List.mem_reverse.mp h)

theorem mem_of_mem_unescape {c : Char} {s : List Char} (h : c ∈ unescape s) : c ∈ s := by
  fun_induction unescape s with
  | case1 => simp at h
  | case2 d rest ih =>
    rcases List.mem_cons.mp h with rfl | h
    · simp
    · simp [ih h]
  | case3 rest _ ih => exact List.mem_cons_of_mem _ (ih h)
  | case4 d rest _ _ ih =>
    rcases List.mem_cons.mp h with rfl | h
    · simp
    · simp [ih h]

theorem mem_of_unquote {c : Char} {s t : List Char} (ht : unquote s = some t) (h : c ∈ t) :
    c ∈ s := by
  unfold unquote at ht
  split at ht
  · cases ht
    exact List.mem_of_mem_drop (List.mem_of_mem_dropLast (mem_of_mem_unescape h))
  · cases ht

theorem mem_of_splitAssignment {c : Char} {line name value : List Char}
    (hs : splitAssignment line = some (name, value)) (h : c ∈ value) : c ∈ line := by
  unfold splitAssignment at hs
  dsimp only at hs
  split at hs
  · rename_i rest hrest
    split at hs
    · cases hs
    · cases hs
      have hc : c ∈ line.dropWhile isNameChar := by simp [hrest, h]
      exact (List.dropWhile_suffix _).subset hc
  · cases hs

theorem mem_of_readValue {c : Char} {name value : List Char} {a : Assignment}
    (hr : readValue name value = .ok (some a)) (h : c ∈ a.value.toList) : c ∈ value := by
  unfold readValue at hr
  split at hr
  · split at hr
    · rename_i s hs
      cases hr
      exact mem_of_unquote hs (by simpa using h)
    · cases hr
  · cases hr
    simpa using h

/-- All lines with an assignment: the comment that a symbol is not set, and an assignment to a name. -/
theorem readLine_cases {lead raw : List Char} {a : Assignment} (hr : readLine lead raw = .ok (some a)) :
    (∃ name, unsetName (Text.strip raw) = some (lead ++ name) ∧ a = ⟨String.ofList name, "n", false⟩) ∨
    ∃ name value, splitAssignment (Text.strip raw) = some (lead ++ name, value) ∧
      readValue name (Text.strip value) = .ok (some a) := by
  unfold readLine at hr
  dsimp only at hr
  split at hr
  · cases hr
  split at hr
  · rename_i name hunset
    cases hafter : afterLead lead name with
    | none => rw [hafter] at hr; cases hr
    | some symbol =>
      rw [hafter] at hr
      cases hr
      exact .inl ⟨symbol, by rw [hunset, eq_append_of_afterLead hafter], rfl⟩
  split at hr
  · cases hr
  split at hr
  · cases hr
  · rename_i name value hsplit
    cases hafter : afterLead lead name with
    | none => rw [hafter] at hr; cases hr
    | some symbol =>
      rw [hafter] at hr
      exact .inr ⟨symbol, value, by rw [hsplit, eq_append_of_afterLead hafter], hr⟩

/-- The value on a line is the letter for no, or made of characters of the line. -/
theorem mem_of_readLine {c : Char} {lead raw : List Char} {a : Assignment}
    (hr : readLine lead raw = .ok (some a)) (h : c ∈ a.value.toList) : c ∈ raw ∨ c = 'n' := by
  rcases readLine_cases hr with ⟨name, -, rfl⟩ | ⟨name, value, hsplit, hvalue⟩
  · exact .inr (by simpa using h)
  · have hmem := mem_of_mem_strip (mem_of_readValue hvalue h)
    exact .inl (mem_of_mem_strip (mem_of_splitAssignment hsplit hmem))

theorem exists_line_of_mem_readLines {e : Entry} {lead : List Char} {number : Nat}
    {ls : List (List Char)} (he : e ∈ (readLines lead number ls).entries) :
    ∃ l ∈ ls, readLine lead l = .ok (some e.toAssignment) := by
  fun_induction readLines lead number ls with
  | case1 => simp at he
  | case2 => simp at he
  | case3 number raw rest hr ih =>
    obtain ⟨l, hl, h⟩ := ih he
    exact ⟨l, by simp [hl], h⟩
  | case4 number raw rest a hr d ih =>
    rcases List.mem_cons.mp he with rfl | he
    · exact ⟨raw, by simp, hr⟩
    · obtain ⟨l, hl, h⟩ := ih he
      exact ⟨l, by simp [hl], h⟩

/-- No value that is read has a line boundary in it. -/
theorem onOneLine_of_mem_read {e : Entry} {lead text : String} (he : e ∈ (read lead text).entries) :
    Text.OnOneLine e.value := by
  obtain ⟨l, hl, hr⟩ := exists_line_of_mem_readLines he
  intro c hc
  rcases mem_of_readLine hr hc with hc | rfl
  · exact Text.not_isLineBreak_of_mem_lines hl c hc
  · decide

/-! ### The line of a quoted text -/

theorem read_line_of_readsAs {lead line : String} {a : Assignment}
    (h : SymbolTable.ReadsAs lead line a) : read lead (line ++ "\n") = ⟨[⟨a, 1⟩], none⟩ := by
  have hlines : Text.lines (line ++ "\n").toList = [line.toList] := by
    rw [String.toList_append]
    exact Text.linesFrom_append [] line.toList [] h.1
  rw [read, hlines, readLines, h.2]
  rfl

/-- Quoting is undone by reading on single-line texts, and on no others. -/
theorem read_quoted_iff {lead name : String} (hlead : Namespace.isIdentifier lead = true)
    (hname : IsWord name.toList) (text : String) :
    read lead (lead ++ name ++ "=" ++ quoteText text ++ "\n") =
        ⟨[{ name, value := text, quoted := true, line := 1 }], none⟩ ↔ Text.OnOneLine text := by
  constructor
  · intro h
    exact onOneLine_of_mem_read (e := ⟨⟨name, text, true⟩, 1⟩) (by rw [h]; simp)
  · intro hone
    -- The name may be empty: the lead is not.
    have hne : lead.toList ++ name.toList ≠ [] := by
      intro h
      simp [Namespace.isIdentifier, (List.append_eq_nil_iff.mp h).1] at hlead
    exact read_line_of_readsAs
      (SymbolTable.readsAs_quoted (Apply.isWord_of_isIdentifier hlead) hname hne hone)

/-- A text with quotes, backslashes and blanks at its ends comes back; one with a separator does not. -/
theorem read_quoted_banner : Namespace.isIdentifier "CONFIG_" = true ∧ IsWord "BANNER".toList ∧
    (read "CONFIG_" ("CONFIG_" ++ "BANNER" ++ "=" ++ quoteText " \\\\\"a\\ \t" ++ "\n") =
      ⟨[{ name := "BANNER", value := " \\\\\"a\\ \t", quoted := true, line := 1 }], none⟩ ↔
        Text.OnOneLine " \\\\\"a\\ \t") ∧
    (read "CONFIG_" ("CONFIG_" ++ "" ++ "=" ++ quoteText "a\u2028b" ++ "\n") =
      ⟨[{ name := "", value := "a\u2028b", quoted := true, line := 1 }], none⟩ ↔
        Text.OnOneLine "a\u2028b") ∧
    Text.OnOneLine " \\\\\"a\\ \t" ∧ ¬ Text.OnOneLine "a\u2028b" := by
  have hlead : Namespace.isIdentifier "CONFIG_" = true := by decide
  have hname : IsWord "BANNER".toList := by decide
  exact ⟨hlead, hname, read_quoted_iff hlead hname _, read_quoted_iff hlead (by decide) _,
    by decide, by decide⟩

end KernelConfig.Dotconfig
