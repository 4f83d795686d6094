import KernelConfig.Proofs.Dotconfig.LineByLine

/-!
Quoted values: a quote, a body in which a backslash makes a pair with the character after it, and the
closing quote. Every such value is read as the text that it stands for. The reader looks for the closing
quote at the end of the line only, so it also takes values that end in another quote: one that belongs to
a pair, or one behind the closing quote.
-/

set_option autoImplicit false

namespace KernelConfig.Dotconfig

/-! ### Well-formed values -/

/-- What may stand between the quotes, with the text that it stands for. -/
inductive Body : List Char → List Char → Prop
  | nil : Body [] []
  | plain {c : Char} {s t : List Char} (hquote : c ≠ '"') (hbackslash : c ≠ '\\') (h : Body s t) :
    Body (c :: s) (c :: t)
  | pair {s t : List Char} (c : Char) (h : Body s t) : Body ('\\' :: c :: s) (c :: t)

/-- A value that is a quoted text as a whole. -/
def IsQuoted (value text : List Char) : Prop :=
  ∃ body, value = '"' :: body ++ ['"'] ∧ Body body text

theorem Body.unescape {s t : List Char} (h : Body s t) : unescape s = t := by
  induction h with
  | nil => rfl
  | plain _ hbackslash _ ih => rw [unescape_cons _ hbackslash, ih]
  | pair c _ ih => rw [unescape_backslash, ih]

/-- What follows the closing quote, which is the first one that makes no pair with a backslash. -/
def afterClosing : List Char → Option (List Char)
  | [] => none
  | '\\' :: _ :: rest => afterClosing rest
  | c :: rest => if c = '"' then some rest else afterClosing rest

theorem afterClosing_backslash (c : Char) (rest : List Char) :
    afterClosing ('\\' :: c :: rest) = afterClosing rest := rfl

theorem afterClosing_cons {c : Char} (rest : List Char) (hc : c ≠ '\\') :
    afterClosing (c :: rest) = if c = '"' then some rest else afterClosing rest := by
  cases rest <;> simp [afterClosing, hc]

theorem Body.afterClosing {s t : List Char} (h : Body s t) (rest : List Char) :
    afterClosing (s ++ '"' :: rest) = some rest := by
  induction h with
  | nil => rw [List.nil_append, afterClosing_cons _ (by decide), if_pos rfl]
  | plain hquote hbackslash _ ih =>
    rw [List.cons_append, afterClosing_cons _ hbackslash, if_neg hquote, ih]
  | pair c _ ih => rw [List.cons_append, List.cons_append, afterClosing_backslash, ih]

theorem exists_body_of_afterClosing {s rest : List Char} (h : afterClosing s = some rest) :
    ∃ body text, s = body ++ '"' :: rest ∧ Body body text := by
  fun_induction afterClosing s with
  | case1 => cases h
  | case2 c s ih =>
    obtain ⟨body, text, rfl, hbody⟩ := ih h
    exact ⟨'\\' :: c :: body, c :: text, rfl, .pair c hbody⟩
  | case3 s _ =>
    cases h
    exact ⟨[], [], rfl, .nil⟩
  | case4 c s hpair hquote ih =>
    obtain ⟨body, text, rfl, hbody⟩ := ih h
    -- A quote is behind the character, so a backslash would make a pair.
    have hbackslash : c ≠ '\\' := by
      rintro rfl
      cases body with
      | nil => exact hpair _ _ rfl rfl
      | cons d body => exact hpair _ _ rfl rfl
    exact ⟨c :: body, c :: text, rfl, .plain hquote hbackslash hbody⟩

/-- A value that begins with a quote is well formed when nothing follows its closing quote. -/
theorem isQuoted_iff {s : List Char} : (∃ text, IsQuoted ('"' :: s) text) ↔ afterClosing s = some [] := by
  constructor
  · rintro ⟨text, body, hvalue, hbody⟩
    cases hvalue
    exact hbody.afterClosing []
  · intro h
    obtain ⟨body, text, rfl, hbody⟩ := exists_body_of_afterClosing h
    exact ⟨text, body, rfl, hbody⟩

/-! ### Reading a value -/

/-- Behind the quote at the beginning the reader wants one at the end, and no more. -/
theorem unquote_eq {s : List Char} : unquote ('"' :: s) =
    if s.getLast? = some '"' then some (unescape s.dropLast) else none := by
  cases s with
  | nil => rfl
  | cons c s => simp [unquote]

theorem IsQuoted.unquote {value text : List Char} (h : IsQuoted value text) :
    unquote value = some text := by
  obtain ⟨body, rfl, hbody⟩ := h
  rw [List.cons_append, unquote_eq, List.getLast?_concat, if_pos rfl, List.dropLast_concat, hbody.unescape]

/-- A line that assigns to a name under the lead a value that begins with a quote. -/
structure AssignsQuoted (lead raw name value : List Char) : Prop where
  word : IsWord (lead ++ name)
  named : lead ++ name ≠ []
  line : ∃ text, Text.strip raw = lead ++ name ++ '=' :: text ∧ Text.strip text = value
  quote : value.head? = some '"'

namespace AssignsQuoted

variable {lead raw name value : List Char} (h : AssignsQuoted lead raw name value)

include h

theorem readLine_eq : readLine lead raw = readValue name value := by
  obtain ⟨text, hraw, rfl⟩ := h.line
  exact readLine_of_strip h.word h.named hraw

theorem readLine_of_unquote {text : List Char} (ht : unquote value = some text) :
    readLine lead raw = .ok (some ⟨String.ofList name, String.ofList text, true⟩) := by
  simp [h.readLine_eq, readValue, h.quote, ht]

theorem readLine_of_unterminated (hnone : unquote value = none) :
    readLine lead raw = .error .unterminated := by
  simp [h.readLine_eq, readValue, h.quote, hnone]

end AssignsQuoted

/-! ### Lines of a document -/

section

variable {lead text : String} {before behind : List (List Char)} {raw : List Char}
  (htext : Text.lines text.toList = before ++ raw :: behind)
  (hbefore : (readLines lead.toList 1 before).failure = none)

include htext hbefore

theorem read_at : read lead text =
    ⟨(readLines lead.toList 1 before).entries ++
        (readLines lead.toList (before.length + 1) (raw :: behind)).entries,
      (readLines lead.toList (before.length + 1) (raw :: behind)).failure⟩ := by
  rw [read, htext, readLines_append, Document.followedBy, hbefore, Nat.add_comm 1]
  rfl

/-- A line that is reached has the entry that it says, and no other entry has its number. -/
theorem mem_read_at {e : Entry} : e ∈ (read lead text).entries ∧ e.line = before.length + 1 ↔
    ∃ a, readLine lead.toList raw = .ok (some a) ∧ e = { a with line := before.length + 1 } := by
  rw [read_at htext hbefore]
  have hearlier : ∀ e ∈ (readLines lead.toList 1 before).entries, e.line ≠ before.length + 1 := by
    intro e he
    have hline := line_of_mem_readLines he
    omega
  have hlater : ∀ e ∈ (readLines lead.toList (before.length + 1 + 1) behind).entries,
      e.line ≠ before.length + 1 := by
    intro e he
    have hline := line_of_mem_readLines he
    omega
  rw [readLines]
  cases hr : readLine lead.toList raw with
  | error cause => grind
  | ok a =>
    cases a with
    | none => grind
    | some a => grind

theorem failure_read_at {cause : LineFault} (hr : readLine lead.toList raw = .error cause) :
    (read lead text).failure = some ⟨before.length + 1, cause⟩ := by
  rw [read_at htext hbefore, readLines, hr]

end

/-- A line is read by the form of its value: a quoted text gives the one entry of the line, and anything
else is a fault of the line. -/
structure ReadByForm (d : Document) (number : Nat) (name value : List Char) : Prop where
  entry_iff : (∃ e ∈ d.entries, e.line = number) ↔ ∃ text, IsQuoted value text
  entry : ∀ text, IsQuoted value text → ∀ e, e ∈ d.entries ∧ e.line = number ↔
    e = ⟨⟨String.ofList name, String.ofList text, true⟩, number⟩
  fault : (¬ ∃ text, IsQuoted value text) → ∃ f, d.failure = some f ∧
    ∀ source, (f.fault source).kind = .configLoad ∧ (f.fault source).context.line = .int number

/-- Behind the quote at the beginning, a value does not end in a quote other than its closing one. -/
def EndsAsClosed (value : List Char) : Prop :=
  (value.drop 1).getLast? = some '"' → afterClosing (value.drop 1) = some []

instance (value : List Char) : Decidable (EndsAsClosed value) :=
  inferInstanceAs (Decidable (_ → _))

/-- A line that is reached and that assigns a value with a quote at its beginning is read by the form of
the value, just when the value does not end in a quote other than its closing one. -/
theorem read_by_form_iff {lead text : String} {before behind : List (List Char)}
    {raw name value : List Char} (htext : Text.lines text.toList = before ++ raw :: behind)
    (hbefore : (readLines lead.toList 1 before).failure = none)
    (hline : AssignsQuoted lead.toList raw name value) :
    ReadByForm (read lead text) (before.length + 1) name value ↔ EndsAsClosed value := by
  have hmem := fun e => mem_read_at htext hbefore (e := e)
  obtain ⟨s, rfl⟩ := List.head?_eq_some_iff.mp hline.quote
  have hentry : ∀ t, unquote ('"' :: s) = some t → ∀ e, e ∈ (read lead text).entries ∧
      e.line = before.length + 1 ↔ e = ⟨⟨String.ofList name, String.ofList t, true⟩, before.length + 1⟩ := by
    intro t ht e
    simp [hmem e, hline.readLine_of_unquote ht]
  constructor
  · intro hform hlast
    -- The reader has taken the value, so by its form it is closed.
    have hsome : unquote ('"' :: s) = some (unescape s.dropLast) := by
      rw [unquote_eq]
      exact if_pos hlast
    obtain ⟨he, hnumber⟩ := (hentry _ hsome _).mpr rfl
    exact isQuoted_iff.mp (hform.entry_iff.mp ⟨_, he, hnumber⟩)
  · intro hends
    by_cases hquoted : ∃ t, IsQuoted ('"' :: s) t
    · obtain ⟨t, ht⟩ := hquoted
      obtain ⟨he, hnumber⟩ := (hentry t ht.unquote _).mpr rfl
      exact {
        entry_iff := ⟨fun _ => ⟨t, ht⟩, fun _ => ⟨_, he, hnumber⟩⟩
        entry := fun u hu => hentry u hu.unquote
        fault := fun hnone => absurd ⟨t, ht⟩ hnone }
    · have hnone : unquote ('"' :: s) = none := by
        rw [unquote_eq]
        exact if_neg fun hlast => hquoted (isQuoted_iff.mpr (hends hlast))
      have hread := hline.readLine_of_unterminated hnone
      exact {
        entry_iff := ⟨fun ⟨e, he, hnumber⟩ => by simpa [hread] using (hmem e).mp ⟨he, hnumber⟩,
          fun h => absurd h hquoted⟩
        entry := fun u hu => absurd ⟨u, hu⟩ hquoted
        fault := fun _ => ⟨_, failure_read_at htext hbefore hread, fun _ => ⟨rfl, rfl⟩⟩ }

/-- A value with escaped quotes and a backslash, in the second line of three. -/
theorem read_by_form_iff_nested :
    let text := "CONFIG_OK=y\n \tCONFIG_S= \"a\\\\\\\"b\" \nCONFIG_Z=m"
    let raw := " \tCONFIG_S= \"a\\\\\\\"b\" ".toList
    let value := "\"a\\\\\\\"b\"".toList
    Text.lines text.toList = ["CONFIG_OK=y".toList] ++ raw :: ["CONFIG_Z=m".toList] ∧
      (readLines "CONFIG_".toList 1 ["CONFIG_OK=y".toList]).failure = none ∧
      AssignsQuoted "CONFIG_".toList raw "S".toList value ∧ IsQuoted value "a\\\"b".toList ∧
      ReadByForm (read "CONFIG_" text) 2 "S".toList value := by
  intro text raw value
  have htext : Text.lines text.toList = ["CONFIG_OK=y".toList] ++ raw :: ["CONFIG_Z=m".toList] := by
    decide +kernel
  have hbefore : (readLines "CONFIG_".toList 1 ["CONFIG_OK=y".toList]).failure = none := by
    decide +kernel
  have hline : AssignsQuoted "CONFIG_".toList raw "S".toList value :=
    ⟨by decide, by decide,
      ⟨" \"a\\\\\\\"b\"".toList, by decide +kernel, by decide +kernel⟩, by decide +kernel⟩
  have hbody : Body "a\\\\\\\"b".toList "a\\\"b".toList :=
    .plain (by decide) (by decide) (.pair _ (.pair _ (.plain (by decide) (by decide) .nil)))
  exact ⟨htext, hbefore, hline, ⟨_, by decide +kernel, hbody⟩,
    (read_by_form_iff htext hbefore hline).mpr (by decide +kernel)⟩

/-- A closing quote that a backslash stands before closes nothing, but the reader takes it. -/
theorem escaped_end_is_read :
    let text := "CONFIG_S=\"a\\\""
    let value := "\"a\\\"".toList
    AssignsQuoted "CONFIG_".toList text.toList "S".toList value ∧ (¬ ∃ t, IsQuoted value t) ∧
      read "CONFIG_" text = ⟨[⟨⟨"S", "a", true⟩, 1⟩], none⟩ ∧
      ¬ ReadByForm (read "CONFIG_" text) 1 "S".toList value := by
  intro text value
  have hline : AssignsQuoted "CONFIG_".toList text.toList "S".toList value :=
    ⟨by decide, by decide, ⟨value, by decide +kernel, by decide +kernel⟩, by decide +kernel⟩
  have hnot : ¬ ∃ t, IsQuoted value t := by
    have hvalue : value = '"' :: value.drop 1 := by decide +kernel
    rw [hvalue, isQuoted_iff]
    decide +kernel
  have hread : read "CONFIG_" text = ⟨[⟨⟨"S", "a", true⟩, 1⟩], none⟩ := by decide +kernel
  refine ⟨hline, hnot, hread, fun hform => hnot (hform.entry_iff.mp ?_)⟩
  rw [hread]
  exact ⟨_, List.mem_singleton.mpr rfl, rfl⟩

end KernelConfig.Dotconfig
