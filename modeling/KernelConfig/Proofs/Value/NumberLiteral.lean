import KernelConfig.Proofs.Text.Lines
import KernelConfig.Proofs.Text.Numeral
import KernelConfig.Value.Conversion

/-!
Number literals: all ways of writing a number, in decimal or in hexadecimal digits, are read as that
number if it is an unsigned 64-bit word, and what is read is a number that the literal denotes.
-/

set_option autoImplicit false

namespace KernelConfig

namespace Text

/-- No blank, no underscore, no sign and no letter that would announce another base. -/
def isPlain (c : Char) : Bool := !isBlank c && !(['_', '+', '-', 'x', 'X'].contains c)

theorem isPlain_of_toLower {c : Char} {d : Nat} (hd : d < 16) (h : c.toLower = digitChar d) :
    isPlain c = true := by
  rcases eq_digitChar_of_toLower hd h with rfl | ⟨hten, rfl⟩ <;> revert d <;> decide

theorem IsNumeral.isPlain {base n : Nat} {s : List Char} (h : IsNumeral base n s) (h0 : 0 < base)
    (hb : base ≤ 16) {c : Char} (hc : c ∈ s) : isPlain c = true := by
  obtain ⟨d, hd, hlower⟩ := h.exists_digit h0 hc
  exact isPlain_of_toLower (by omega) hlower

theorem isBlank_of_isPlain {c : Char} (h : isPlain c = true) : isBlank c = false := by
  simp [isPlain] at h; exact h.1

end Text

namespace NumberLiteral

open Text

/-! ### Natural numbers -/

theorem natural10?_of_isNumeral {n : Nat} {s : List Char} (h : IsNumeral 10 n s)
    (hl : s.length ≤ 4300) : natural10? s = some n := by
  obtain ⟨ds, hds, hn⟩ := h.mapM_eq (by decide) digitValue?_of_toLower
  have hne := h.ne_nil
  simp [natural10?, hds, hn, hne, Nat.not_lt.mpr hl]

theorem natural16?_of_plain {s : List Char} (h : ∀ c ∈ s, isPlain c = true) :
    natural16? s = if s.isEmpty then none else (s.mapM hexValue?).map (digitsValue 16) := by
  cases s with
  | nil => rfl
  | cons z s =>
    cases s with
    | nil => rfl
    | cons x s =>
      have hx : isPlain x = true := h x (by simp)
      have hne : x ≠ 'x' ∧ x ≠ 'X' := by simp [isPlain] at hx; tauto
      simp [natural16?, hne]

theorem natural16?_of_isNumeral {n : Nat} {s : List Char} (h : IsNumeral 16 n s) :
    natural16? s = some n := by
  obtain ⟨ds, hds, hn⟩ := h.mapM_eq (by decide) hexValue?_of_toLower
  rw [natural16?_of_plain fun c => h.isPlain (by decide) (by decide), hds]
  simp [h.ne_nil, hn]

/-! ### Signs -/

theorem trim_eq_self {s : List Char} (h : ∀ c ∈ s, isBlank c = false) : trim s = s := by
  have hp : ∀ c ∈ s, isPadding c = false := fun c hc => by simp [isPadding, h c hc]
  exact trimmed_eq_self (fun c hc => hp c (List.mem_of_mem_head? hc))
    fun c hc => hp c (List.mem_of_getLast? hc)

theorem signed?_of_plain (natural? : List Char → Option Nat) {s : List Char}
    (h : ∀ c ∈ s, isPlain c = true) : signed? natural? s = (natural? s).map Int.ofNat := by
  rw [signed?, trim_eq_self fun c hc => isBlank_of_isPlain (h c hc)]
  cases s with
  | nil => rfl
  | cons c s =>
    have hc := h c (by simp)
    split
    · rename_i heq; cases heq; simp [isPlain] at hc
    · rename_i heq; cases heq; simp [isPlain] at hc
    · rfl

theorem signed?_sign (natural? : List Char → Option Nat) {s : List Char}
    (h : ∀ c ∈ s, isBlank c = false) :
    signed? natural? ('+' :: s) = (natural? s).map Int.ofNat ∧
      signed? natural? ('-' :: s) = (natural? s).map fun n => -Int.ofNat n := by
  have htrim : ∀ sign, isBlank sign = false → trim (sign :: s) = sign :: s := by
    intro sign hsign
    refine trim_eq_self fun c hc => ?_
    rcases List.mem_cons.mp hc with rfl | hc
    · exact hsign
    · exact h c hc
  rw [signed?, signed?, htrim _ (by decide), htrim _ (by decide)]
  exact ⟨rfl, rfl⟩

/-! ### Ways of writing a number -/

/-- What a literal of a natural number has besides underscores and blanks around it. -/
inductive Writes (n : Nat) : List Char → Prop
  | decimal {s : List Char} (h : IsNumeral 10 n s) (hl : s.length ≤ 4300) : Writes n s
  | plus {s : List Char} (h : IsNumeral 10 n s) (hl : s.length ≤ 4300) : Writes n ('+' :: s)
  | hexadecimal {s : List Char} {x : Char} (hx : x = 'x' ∨ x = 'X') (h : IsNumeral 16 n s) :
    Writes n ('0' :: x :: s)

/-- A text with underscores put into it anywhere, and then blanks around it. -/
def IsSpaced (core s : List Char) : Prop :=
  ∃ before inner behind, s = before ++ inner ++ behind ∧ (∀ c ∈ before, isBlank c = true) ∧
    (∀ c ∈ behind, isBlank c = true) ∧ inner.filter (· ≠ '_') = core

theorem isSpaced_self {s : List Char} (h : '_' ∉ s) : IsSpaced s s := by
  refine ⟨[], s, [], by simp, by simp, by simp, List.filter_eq_self.mpr fun c hc => ?_⟩
  have hne : c ≠ '_' := by rintro rfl; exact h hc
  simpa using hne

theorem IsSpaced.filter_strip {core s : List Char} (h : IsSpaced core s)
    (hcore : ∀ c ∈ core, isBlank c = false) : (strip s).filter (· ≠ '_') = core := by
  obtain ⟨before, inner, behind, rfl, hbefore, hbehind, rfl⟩ := h
  have hinner : ∀ c ∈ inner, isBlank c = false := by
    intro c hc
    by_cases hunder : c = '_'
    · subst hunder
      decide
    · exact hcore c (List.mem_filter.mpr ⟨hc, by simpa using hunder⟩)
  rw [strip_padded hbefore hinner hbehind]

theorem isBlank_of_mem_cons {c d : Char} {s : List Char} (hd : isBlank d = false)
    (hs : ∀ c ∈ s, isBlank c = false) (hc : c ∈ d :: s) : isBlank c = false := by
  rcases List.mem_cons.mp hc with rfl | hc
  · exact hd
  · exact hs c hc

theorem integer?_of_writes {n : Nat} {core s : List Char} (hw : Writes n core) (hs : IsSpaced core s) :
    integer? s = some (n : Int) := by
  cases hw with
  | decimal h hl =>
    have hp : ∀ c ∈ core, isPlain c = true := fun c => h.isPlain (by decide) (by decide)
    rw [integer?, hs.filter_strip fun c hc => isBlank_of_isPlain (hp c hc)]
    split
    · have hx := hp 'x' (by simp)
      simp [isPlain] at hx
    · have hx := hp 'X' (by simp)
      simp [isPlain] at hx
    · rw [signed?_of_plain _ hp, natural10?_of_isNumeral h hl]
      rfl
  | @plus ds h hl =>
    have hds : ∀ c ∈ ds, isBlank c = false :=
      fun c hc => isBlank_of_isPlain (h.isPlain (by decide) (by decide) hc)
    rw [integer?, hs.filter_strip fun c => isBlank_of_mem_cons (by decide) hds]
    change signed? natural10? ('+' :: ds) = some (n : Int)
    rw [(signed?_sign natural10? hds).1, natural10?_of_isNumeral h hl]
    rfl
  | @hexadecimal ds x hx h =>
    have hp : ∀ c ∈ ds, isPlain c = true := fun c => h.isPlain (by decide) (by decide)
    have hds : ∀ c ∈ ds, isBlank c = false := fun c hc => isBlank_of_isPlain (hp c hc)
    have hblank : isBlank x = false := by rcases hx with rfl | rfl <;> decide
    rw [integer?, hs.filter_strip fun c =>
      isBlank_of_mem_cons (by decide) fun c => isBlank_of_mem_cons hblank hds]
    rcases hx with rfl | rfl <;>
      · simp only [signed?_of_plain _ hp, natural16?_of_isNumeral h]
        rfl

theorem integer?_of_minus {n : Nat} {ds s : List Char} (h : IsNumeral 10 n ds) (hl : ds.length ≤ 4300)
    (hs : IsSpaced ('-' :: ds) s) : integer? s = some (-n : Int) := by
  have hds : ∀ c ∈ ds, isBlank c = false :=
    fun c hc => isBlank_of_isPlain (h.isPlain (by decide) (by decide) hc)
  rw [integer?, hs.filter_strip fun c => isBlank_of_mem_cons (by decide) hds]
  change signed? natural10? ('-' :: ds) = some (-n : Int)
  rw [(signed?_sign natural10? hds).2, natural10?_of_isNumeral h hl]
  rfl

/-! ### Words -/

theorem parse_of_natural {s : String} {n : Nat} (h : integer? s.toList = some (n : Int)) :
    parse s = if h : n < 2 ^ 64 then .ok (UInt64.ofNatLT n h) else .error .tooLarge := by
  have h0 : ¬ ((n : Int) < 0) := by omega
  simp only [parse, h, if_neg h0, Int.toNat_natCast]

theorem parse_of_word {s : String} {n : UInt64} (h : integer? s.toList = some (n.toNat : Int)) :
    parse s = .ok n := by
  rw [parse_of_natural h, dif_pos n.toNat_lt]
  rfl

/-- What is read is what the literal denotes; no number is cut off. -/
theorem integer?_of_parse {s : String} {n : UInt64} (h : parse s = .ok n) :
    integer? s.toList = some (n.toNat : Int) := by
  unfold parse at h
  split at h
  · cases h
  · rename_i i hi
    split at h
    · cases h
    · split at h
      · cases h
        rw [hi, UInt64.toNat_ofNatLT]
        congr
        omega
      · cases h

theorem length_numeral_le (n : UInt64) : (numeral 10 n.toNat).length ≤ 4300 := by
  have hlength := numeral_length_le 10 n.toNat
  have hlog : n.toNat.log2 < 64 := by
    by_cases h0 : n.toNat = 0
    · simp [h0]
    · exact (Nat.log2_lt h0).mpr n.toNat_lt
  omega

theorem underscore_not_mem_numeral {base n : Nat} (h0 : 0 < base) (hb : base ≤ 16) :
    '_' ∉ numeral base n := by
  intro h
  have hplain := (isNumeral_numeral h0 hb n).isPlain h0 hb h
  simp [isPlain] at hplain

theorem parse_decimal (n : UInt64) : parse (decimal n.toNat) = .ok n := by
  have hwrites : Writes n.toNat (numeral 10 n.toNat) :=
    .decimal (isNumeral_numeral (by decide) (by decide) _) (length_numeral_le n)
  refine parse_of_word ?_
  rw [decimal, String.toList_ofList]
  exact integer?_of_writes hwrites
    (isSpaced_self (underscore_not_mem_numeral (by decide) (by decide)))

theorem parse_hexadecimal (n : UInt64) : parse (hexadecimal n.toNat) = .ok n := by
  have hwrites : Writes n.toNat ('0' :: 'x' :: numeral 16 n.toNat) :=
    .hexadecimal (.inl rfl) (isNumeral_numeral (by decide) (by decide) _)
  refine parse_of_word ?_
  rw [hexadecimal, String.toList_ofList]
  refine integer?_of_writes hwrites (isSpaced_self ?_)
  simp [underscore_not_mem_numeral]

theorem parse_of_negative {s : String} {i : Int} (h : integer? s.toList = some i) (hi : i < 0) :
    parse s = .error .negative := by
  simp only [parse, h, if_pos hi]

/-! ### Texts -/

theorem numberOfDatum_text (s : String) : numberOfDatum (.text s) =
    (parse s).mapError fun f => .number (.literal (.text s) f) := by
  rw [numberOfDatum]
  cases hparse : parse s <;> simp only [hparse] <;> rfl

theorem numberOfDatum_text_eq_ok {s : String} {n : UInt64} :
    numberOfDatum (.text s) = .ok n ↔ parse s = .ok n := by
  rw [numberOfDatum_text]
  cases parse s <;> simp [Except.mapError]

/-- A text that writes a natural number is read as the number if that is an unsigned 64-bit word and is
refused else; after a minus sign only zero is read. Whatever is read is the number that the text denotes,
and its decimal and its hexadecimal numeral are read as the same word; a text that is not read is always
refused as a number out of range. -/
theorem literals_are_read_exactly (s : String) :
    (∀ n core, Writes n core → IsSpaced core s.toList → numberOfDatum (.text s) =
      if h : n < 2 ^ 64 then .ok (UInt64.ofNatLT n h)
      else .error (.number (.literal (.text s) .tooLarge))) ∧
    (∀ n ds, IsNumeral 10 n ds → ds.length ≤ 4300 → IsSpaced ('-' :: ds) s.toList →
      numberOfDatum (.text s) =
        if n = 0 then .ok 0 else .error (.number (.literal (.text s) .negative))) ∧
    (∀ v, numberOfDatum (.text s) = .ok v →
      integer? s.toList = some (v.toNat : Int) ∧ v.toNat < 2 ^ 64 ∧
      numberOfDatum (.text (decimal v.toNat)) = .ok v ∧
      numberOfDatum (.text (hexadecimal v.toNat)) = .ok v) ∧
    ∀ f, numberOfDatum (.text s) = .error f → f.fault.kind = .numberRange := by
  refine ⟨fun n core hwrites hspaced => ?_, fun n ds h hl hspaced => ?_, fun v hv => ?_, fun f hf => ?_⟩
  · rw [numberOfDatum_text, parse_of_natural (integer?_of_writes hwrites hspaced)]
    split <;> rfl
  · have hinteger := integer?_of_minus h hl hspaced
    rw [numberOfDatum_text]
    by_cases h0 : n = 0
    · subst h0
      rw [if_pos rfl, parse_of_natural (n := 0) hinteger]
      rfl
    · rw [if_neg h0, parse_of_negative hinteger (by omega)]
      rfl
  · exact ⟨integer?_of_parse (numberOfDatum_text_eq_ok.mp hv), v.toNat_lt,
      numberOfDatum_text_eq_ok.mpr (parse_decimal v), numberOfDatum_text_eq_ok.mpr (parse_hexadecimal v)⟩
  · rw [numberOfDatum_text] at hf
    cases hparse : parse s <;> rw [hparse] at hf <;> cases hf
    rfl

/-- Underscores also stand between the zero and the letter, and the blanks are of several kinds. -/
theorem literals_are_read_exactly_spaced :
    let s := "\u3000\t_0_X00f__F_\n\x1c"
    Writes 255 "0X00fF".toList ∧ IsSpaced "0X00fF".toList s.toList ∧ numberOfDatum (.text s) = .ok 255 := by
  intro s
  have hwrites : Writes 255 "0X00fF".toList :=
    .hexadecimal (.inr rfl) ⟨2, by decide +kernel⟩
  have hspaced : IsSpaced "0X00fF".toList s.toList :=
    ⟨"\u3000\t".toList, "_0_X00f__F_".toList, "\n\x1c".toList, by decide +kernel,
      List.all_eq_true.mp (by decide +kernel), List.all_eq_true.mp (by decide +kernel),
      by decide +kernel⟩
  exact ⟨hwrites, hspaced, (literals_are_read_exactly s).1 255 _ hwrites hspaced⟩

end NumberLiteral

end KernelConfig
