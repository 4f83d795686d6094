import Mathlib.Data.List.Basic
import Mathlib.Data.List.TakeWhile
import KernelConfig.Text.Blank
import KernelConfig.Text.Lines

/-!
Blanks and lines: a text without blanks at its ends is left as it is, and lines that are written one
after the other, each with a line feed, are read back as they were.
-/

set_option autoImplicit false

namespace KernelConfig.Text

theorem dropWhile_eq_self {p : Char → Bool} {s : List Char}
    (h : ∀ c, s.head? = some c → p c = false) : s.dropWhile p = s := by
  cases s with
  | nil => rfl
  | cons c s => simp [List.dropWhile, h c rfl]

/-- A text is trimmed already when neither its first nor its last character would go. -/
theorem trimmed_eq_self {p : Char → Bool} {s : List Char}
    (hfirst : ∀ c, s.head? = some c → p c = false)
    (hlast : ∀ c, s.getLast? = some c → p c = false) :
    ((s.dropWhile p).reverse.dropWhile p).reverse = s := by
  have hr : s.reverse.dropWhile p = s.reverse :=
    dropWhile_eq_self fun c hc => hlast c (by rwa [List.head?_reverse] at hc)
  rw [dropWhile_eq_self hfirst, hr, List.reverse_reverse]

theorem strip_eq_self {s : List Char} (hfirst : ∀ c, s.head? = some c → isBlank c = false)
    (hlast : ∀ c, s.getLast? = some c → isBlank c = false) : strip s = s :=
  trimmed_eq_self hfirst hlast

/-- Blanks around a text without blanks are taken away, and nothing else. -/
theorem strip_padded {before s behind : List Char} (hbefore : ∀ c ∈ before, isBlank c = true)
    (hs : ∀ c ∈ s, isBlank c = false) (hbehind : ∀ c ∈ behind, isBlank c = true) :
    strip (before ++ s ++ behind) = s := by
  have hstart : stripStart (before ++ s ++ behind) = stripStart (s ++ behind) := by
    rw [stripStart, List.append_assoc, List.dropWhile_append_of_pos hbefore]
    rfl
  rw [strip, hstart]
  cases s with
  | nil =>
    have hnone : behind.dropWhile isBlank = [] := by
      rw [← List.append_nil behind, List.dropWhile_append_of_pos hbehind]
      rfl
    simp [stripStart, stripEnd, hnone]
  | cons c s =>
    have hfirst : stripStart (c :: s ++ behind) = c :: s ++ behind := by
      refine dropWhile_eq_self fun d hd => ?_
      cases hd
      exact hs c (by simp)
    have hlast : (c :: s).reverse.dropWhile isBlank = (c :: s).reverse :=
      dropWhile_eq_self fun d hd => hs d (List.mem_reverse.mp (List.mem_of_mem_head? hd))
    rw [hfirst, stripEnd, List.reverse_append,
      List.dropWhile_append_of_pos fun d hd => hbehind d (List.mem_reverse.mp hd), hlast,
      List.reverse_reverse]

theorem isBlank_of_head?_dropWhile {c : Char} {s : List Char}
    (h : (s.dropWhile isBlank).head? = some c) : isBlank c = false := by
  have hfirst := List.head?_dropWhile_not isBlank s
  rwa [h] at hfirst

/-- What is left without the blanks at its ends neither begins nor ends with one. -/
theorem isBlank_of_end_strip {c : Char} {s : List Char}
    (h : (strip s).head? = some c ∨ (strip s).getLast? = some c) : isBlank c = false := by
  rcases h with h | h
  · -- What is left begins as the text without the blanks in front.
    have hpre : strip s <+: stripStart s := by
      rw [strip, stripEnd, ← List.reverse_suffix, List.reverse_reverse]
      exact List.dropWhile_suffix _
    obtain ⟨t, ht⟩ := hpre
    obtain ⟨rest, hrest⟩ := List.head?_eq_some_iff.mp h
    refine isBlank_of_head?_dropWhile (s := s) ?_
    rw [← stripStart, ← ht, hrest]
    rfl
  · rw [strip, stripEnd, List.getLast?_reverse] at h
    exact isBlank_of_head?_dropWhile h

/-- Blanks at the end do not go past a character that is none. -/
theorem stripEnd_append_cons {c : Char} (hc : isBlank c = false) (before behind : List Char) :
    stripEnd (before ++ c :: behind) = before ++ c :: stripEnd behind := by
  have hreverse : (before ++ c :: behind).reverse = behind.reverse ++ c :: before.reverse := by simp
  have hstop : (c :: before.reverse).dropWhile isBlank = c :: before.reverse :=
    dropWhile_eq_self fun d hd => by cases hd; exact hc
  rw [stripEnd, stripEnd, hreverse, List.dropWhile_append, hstop]
  split
  · rename_i hnone
    simp [List.isEmpty_iff.mp hnone]
  · simp

/-- A text is what is left of it without the blanks at its end, and these. -/
theorem exists_stripEnd_append (s : List Char) :
    ∃ blanks, s = stripEnd s ++ blanks ∧ ∀ c ∈ blanks, isBlank c = true := by
  refine ⟨(s.reverse.takeWhile isBlank).reverse, ?_, fun c hc => ?_⟩
  · rw [stripEnd, ← List.reverse_append, List.takeWhile_append_dropWhile, List.reverse_reverse]
  · exact List.mem_takeWhile_imp (List.mem_reverse.mp hc)

theorem strip_append_blanks {s blanks : List Char} (h : ∀ c ∈ blanks, isBlank c = true) :
    strip (s ++ blanks) = strip s := by
  have hgone : blanks.dropWhile isBlank = [] := List.dropWhile_eq_nil_iff.mpr h
  have hend : ∀ u : List Char, stripEnd (u ++ blanks) = stripEnd u := by
    intro u
    rw [stripEnd, stripEnd, List.reverse_append,
      List.dropWhile_append_of_pos fun c hc => h c (List.mem_reverse.mp hc)]
  rw [strip, strip, stripStart, stripStart, List.dropWhile_append]
  split
  · rename_i hnone
    rw [hgone, List.isEmpty_iff.mp hnone]
  · exact hend _

@[simp] theorem strip_stripEnd (s : List Char) : strip (stripEnd s) = strip s := by
  obtain ⟨blanks, hs, hblanks⟩ := exists_stripEnd_append s
  have h := strip_append_blanks (s := stripEnd s) hblanks
  rw [← hs] at h
  exact h.symm

/-! ### Lines -/

/-- Only a carriage return with a line feed behind it is read together with that. -/
theorem linesFrom_single {c : Char} {rest : List Char} (line : List Char)
    (h : c = '\r' → ∀ t, rest ≠ '\n' :: t) : linesFrom line (c :: rest) =
      if isLineBreak c then line.reverse :: linesFrom [] rest else linesFrom (c :: line) rest := by
  rw [linesFrom]
  exact fun t hc ht => h hc t ht

theorem linesFrom_cons {c : Char} (line rest : List Char) (hc : isLineBreak c = false) :
    linesFrom line (c :: rest) = linesFrom (c :: line) rest := by
  have hr : c ≠ '\r' := by rintro rfl; simp [isLineBreak] at hc
  rw [linesFrom_single line fun h => absurd h hr, hc]
  rfl

theorem linesFrom_append (line s rest : List Char) (hs : ∀ c ∈ s, isLineBreak c = false) :
    linesFrom line (s ++ '\n' :: rest) = (line.reverse ++ s) :: linesFrom [] rest := by
  induction s generalizing line with
  | nil => simp [linesFrom, isLineBreak]
  | cons c s ih =>
    simp only [List.mem_cons, forall_eq_or_imp] at hs
    rw [List.cons_append, linesFrom_cons line _ hs.1, ih _ hs.2]
    simp

theorem linesFrom_feed (line rest : List Char) :
    linesFrom line ('\n' :: rest) = line.reverse :: linesFrom [] rest := by
  simp [linesFrom, isLineBreak]

/-- A line feed ends a line, whatever is behind it. -/
theorem linesFrom_lineFeed (line s rest : List Char) :
    linesFrom line (s ++ '\n' :: rest) = linesFrom line (s ++ ['\n']) ++ lines rest := by
  -- The induction follows the reading, which takes a carriage return and a line feed together.
  fun_induction linesFrom line s with
  | case1 line h => simp [linesFrom_feed, lines, linesFrom]
  | case2 line h => simp [linesFrom_feed, lines, linesFrom]
  | case3 line s ih => simp [linesFrom, ih]
  | case4 line c s hc hbreak ih =>
    by_cases hr : c = '\r' ∧ s = []
    · obtain ⟨rfl, rfl⟩ := hr
      simp [linesFrom, lines]
    · have hbehind : ∀ u, c = '\r' → ∀ t', s ++ '\n' :: u ≠ '\n' :: t' := by
        intro u hcr t' heq
        cases s with
        | nil => exact hr ⟨hcr, rfl⟩
        | cons d s =>
          cases heq
          exact hc s hcr rfl
      rw [List.cons_append, List.cons_append, linesFrom_single line (hbehind rest),
        linesFrom_single line (hbehind []), if_pos hbreak, if_pos hbreak, ih, List.cons_append]
  | case5 line c s hc hbreak ih =>
    have hb : isLineBreak c = false := eq_false_of_ne_true hbreak
    rw [List.cons_append, List.cons_append, linesFrom_cons line _ hb, linesFrom_cons line _ hb, ih]

theorem lines_append {s : List Char} (hs : s = [] ∨ ∃ u, s = u ++ ['\n']) (rest : List Char) :
    lines (s ++ rest) = lines s ++ lines rest := by
  rcases hs with rfl | ⟨u, rfl⟩
  · rfl
  · simpa [lines] using linesFrom_lineFeed [] u rest

/-- Lines without boundaries inside are the lines of the text that has them one after the other. -/
theorem lines_flatMap (ls : List (List Char)) (h : ∀ l ∈ ls, ∀ c ∈ l, isLineBreak c = false) :
    lines (ls.flatMap fun l => l ++ ['\n']) = ls := by
  induction ls with
  | nil => rfl
  | cons l ls ih =>
    simp only [List.mem_cons, forall_eq_or_imp] at h
    have hl := linesFrom_append [] l (ls.flatMap fun l => l ++ ['\n']) h.1
    simp only [lines] at ih ⊢
    simpa [ih h.2] using hl

theorem not_isLineBreak_of_mem_linesFrom {line s l : List Char}
    (hline : ∀ c ∈ line, isLineBreak c = false) (hl : l ∈ linesFrom line s) :
    ∀ c ∈ l, isLineBreak c = false := by
  fun_induction linesFrom line s with
  | case1 line h => simp at hl
  | case2 line h =>
    simp only [List.mem_singleton] at hl
    subst hl
    simpa using hline
  | case3 line rest ih =>
    rcases List.mem_cons.mp hl with rfl | hl
    · simpa using hline
    · exact ih (by simp) hl
  | case4 line c rest _ hc ih =>
    rcases List.mem_cons.mp hl with rfl | hl
    · simpa using hline
    · exact ih (by simp) hl
  | case5 line c rest _ hc ih =>
    refine ih (fun d hd => ?_) hl
    rcases List.mem_cons.mp hd with rfl | hd
    · exact eq_false_of_ne_true hc
    · exact hline d hd

/-- A line has no boundary inside. -/
theorem not_isLineBreak_of_mem_lines {s l : List Char} (hl : l ∈ lines s) :
    ∀ c ∈ l, isLineBreak c = false :=
  not_isLineBreak_of_mem_linesFrom (by simp) hl

/-- The three ways to end a line with a carriage return or a line feed make the same lines. -/
theorem lines_universalNewlines (s : List Char) : lines (universalNewlines s) = lines s := by
  have hfrom : ∀ line, linesFrom line (universalNewlines s) = linesFrom line s := by
    fun_induction universalNewlines s with
    | case1 => exact fun _ => rfl
    | case2 rest ih =>
      intro line
      rw [linesFrom_feed, ih]
      rfl
    | case3 c rest hpair ih =>
      intro line
      by_cases hreturn : c = '\r'
      · subst hreturn
        rw [if_pos rfl, linesFrom_feed, ih, linesFrom_single line fun h t => hpair t h]
        rfl
      · have hplain : ∀ t : List Char, c = '\r' → ∀ u, t ≠ '\n' :: u := fun _ h => absurd h hreturn
        rw [if_neg hreturn, linesFrom_single line (hplain _), linesFrom_single line (hplain _), ih, ih]
  exact hfrom []

/-- The text that consists of lines. -/
def ofLines (ls : List (List Char)) : String := String.ofList (ls.flatMap fun l => l ++ ['\n'])

/-- Some lines of a text, written one after the other, are the lines of what is written. -/
theorem lines_ofLines {s : List Char} {ls : List (List Char)} (h : ∀ l ∈ ls, l ∈ lines s) :
    lines (ofLines ls).toList = ls := by
  rw [ofLines, String.toList_ofList]
  exact lines_flatMap ls fun l hl => not_isLineBreak_of_mem_lines (h l hl)

end KernelConfig.Text
