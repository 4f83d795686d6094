import Mathlib.Tactic.SplitIfs
import KernelConfig.Text.Utf8

/-!
The bytes of a string are those that it consists of, so that no two strings have the same, and strict
reading gives the string back.
-/

set_option autoImplicit false

namespace KernelConfig.Text

theorem utf8Char_eq (c : Char) : utf8Char c = String.utf8EncodeChar c := by
  have hc : c.toNat < 0x110000 := by
    have := c.valid
    simp only [UInt32.isValidChar, Nat.isValidChar] at this
    show c.val.toNat < _
    omega
  have hv : c.val.toNat = c.toNat := rfl
  simp only [utf8Char, String.utf8EncodeChar, hv, Nat.toUInt8]
  generalize c.toNat = n at hc
  by_cases h₁ : n < 0x80
  · rw [if_pos h₁, if_pos (show n ≤ 0x7F by omega)]
  rw [if_neg h₁, if_neg (show ¬ n ≤ 0x7F by omega)]
  by_cases h₂ : n < 0x800
  · rw [if_pos h₂, if_pos (show n ≤ 0x7FF by omega), Nat.mod_eq_of_lt (show n / 64 < 32 by omega)]
    simp only [Nat.add_comm]
  rw [if_neg h₂, if_neg (show ¬ n ≤ 0x7FF by omega)]
  by_cases h₃ : n < 0x10000
  · rw [if_pos h₃, if_pos (show n ≤ 0xFFFF by omega), Nat.mod_eq_of_lt (show n / 4096 < 16 by omega)]
    simp only [Nat.add_comm]
  · rw [if_neg h₃, if_neg (show ¬ n ≤ 0xFFFF by omega),
      Nat.mod_eq_of_lt (show n / 262144 < 8 by omega)]
    simp only [Nat.add_comm]

theorem utf8_eq (s : String) : utf8 s = s.toByteArray.data.toList := by
  have hchar : utf8Char = String.utf8EncodeChar := funext utf8Char_eq
  rw [utf8, hchar, ← String.utf8Encode_toList, List.utf8Encode, List.data_toByteArray]

theorem utf8_injective {s t : String} (h : utf8 s = utf8 t) : s = t := by
  rw [utf8_eq, utf8_eq] at h
  exact String.toByteArray_inj.mp (ByteArray.ext (Array.toList_inj.mp h))

/-! ### Reading back -/

theorem toNat_byte {n : Nat} (h : n < 256) : n.toUInt8.toNat = n := by
  simpa [Nat.toUInt8] using h

/-- What follows a first byte is read to its end when its bytes are in their ranges. -/
theorem utf8Tail_append {low high : Nat} {tail : Bytes} (rest : Bytes)
    (hfirst : ∀ b, tail.head? = some b → low ≤ b.toNat ∧ b.toNat ≤ high)
    (hrest : ∀ b ∈ tail.tail, 0x80 ≤ b.toNat ∧ b.toNat ≤ 0xBF) :
    utf8Tail tail.length low high (tail ++ rest) = tail.length := by
  induction tail generalizing low high with
  | nil => cases rest <;> rfl
  | cons b tail ih =>
    have hb := hfirst b rfl
    have htail : utf8Tail tail.length 0x80 0xBF (tail ++ rest) = tail.length :=
      ih (fun d hd => hrest d (List.mem_of_mem_head? hd))
        fun d hd => hrest d (List.mem_of_mem_tail hd)
    simp [utf8Tail, hb, htail]

theorem utf8Piece_of_lead {position n low high : Nat} {b : UInt8} {tail : Bytes} (rest : Bytes)
    (hlead : utf8Lead b.toNat = some (tail.length, low, high))
    (hfirst : ∀ d, tail.head? = some d → low ≤ d.toNat ∧ d.toNat ≤ high)
    (hrest : ∀ d ∈ tail.tail, 0x80 ≤ d.toNat ∧ d.toNat ≤ 0xBF)
    (hn : tail.foldl (fun v t => v * 64 + t.toNat % 64) (utf8LeadBits tail.length b.toNat) = n) :
    utf8Piece position b (tail ++ rest) = (.char (Char.ofNat n), tail.length) := by
  simp [utf8Piece, hlead, utf8Tail_append rest hfirst hrest, hn]

/-- The first byte of three; two of them bound the byte that follows more closely. -/
theorem utf8Lead_of_three {b : Nat} (hlow : 0xE0 ≤ b) (hhigh : b < 0xF0) :
    utf8Lead b = some (2, if b = 0xE0 then 0xA0 else 0x80, if b = 0xED then 0x9F else 0xBF) := by
  unfold utf8Lead
  split_ifs <;> first | omega | rfl

/-- The first byte of four. -/
theorem utf8Lead_of_four {b : Nat} (hlow : 0xF0 ≤ b) (hhigh : b < 0xF5) :
    utf8Lead b = some (3, if b = 0xF0 then 0x90 else 0x80, if b = 0xF4 then 0x8F else 0xBF) := by
  unfold utf8Lead
  split_ifs <;> first | omega | rfl

/-- The bytes of a character are read as that character, whatever follows them. -/
theorem utf8Piece_utf8Char (c : Char) (position : Nat) (rest : Bytes) :
    ∃ b tail, utf8Char c = b :: tail ∧
      utf8Piece position b (tail ++ rest) = (.char c, tail.length) := by
  have hc : c.toNat < 0xD800 ∨ 0xDFFF < c.toNat ∧ c.toNat < 0x110000 := by
    have := c.valid
    simp only [UInt32.isValidChar, Nat.isValidChar] at this
    show c.val.toNat < _ ∨ _ < c.val.toNat ∧ c.val.toNat < _
    omega
  have hof : Char.ofNat c.toNat = c := Char.ofNat_toNat c
  unfold utf8Char
  lift_lets
  intro n
  have hn : c.toNat = n := rfl
  rw [hn] at hc hof
  clear_value n
  by_cases h₁ : n < 0x80
  · rw [if_pos h₁]
    refine ⟨_, [], rfl, ?_⟩
    rw [← hof]
    have hlead : utf8Lead n = some (0, 0, 0) := if_pos h₁
    refine utf8Piece_of_lead rest (by rw [toNat_byte (by omega)]; exact hlead) (by simp) (by simp) ?_
    rw [toNat_byte (by omega)]
    rfl
  rw [if_neg h₁]
  by_cases h₂ : n < 0x800
  · rw [if_pos h₂]
    refine ⟨_, [_], rfl, ?_⟩
    rw [← hof]
    have hlead : utf8Lead (0xC0 + n / 64) = some (1, 0x80, 0xBF) := by
      rw [utf8Lead, if_neg (by omega), if_neg (by omega), if_pos (by omega)]
    refine utf8Piece_of_lead rest (by rw [toNat_byte (by omega)]; exact hlead) ?_ (by simp) ?_
    · intro d hd
      cases hd
      rw [toNat_byte (by omega)]
      omega
    · simp only [List.foldl, List.length_singleton, utf8LeadBits]
      rw [toNat_byte (by omega), toNat_byte (by omega)]
      omega
  rw [if_neg h₂]
  by_cases h₃ : n < 0x10000
  · rw [if_pos h₃]
    refine ⟨_, [_, _], rfl, ?_⟩
    rw [← hof]
    have hlead := utf8Lead_of_three (b := 0xE0 + n / 4096) (by omega) (by omega)
    refine utf8Piece_of_lead rest (by rw [toNat_byte (by omega)]; exact hlead) ?_ ?_ ?_
    · intro d hd
      cases hd
      rw [toNat_byte (by omega)]
      split_ifs <;> omega
    · intro d hd
      cases List.mem_singleton.mp hd
      rw [toNat_byte (by omega)]
      omega
    · simp only [List.foldl, List.length_cons, List.length_nil, utf8LeadBits]
      rw [toNat_byte (by omega), toNat_byte (by omega), toNat_byte (by omega)]
      omega
  · rw [if_neg h₃]
    refine ⟨_, [_, _, _], rfl, ?_⟩
    rw [← hof]
    have hlead := utf8Lead_of_four (b := 0xF0 + n / 262144) (by omega) (by omega)
    refine utf8Piece_of_lead rest (by rw [toNat_byte (by omega)]; exact hlead) ?_ ?_ ?_
    · intro d hd
      cases hd
      rw [toNat_byte (by omega)]
      split_ifs <;> omega
    · intro d hd
      simp only [List.tail_cons, List.mem_cons, List.not_mem_nil, or_false] at hd
      rcases hd with rfl | rfl
      · rw [toNat_byte (by omega)]; omega
      · rw [toNat_byte (by omega)]; omega
    · simp only [List.foldl, List.length_cons, List.length_nil, utf8LeadBits]
      rw [toNat_byte (by omega), toNat_byte (by omega), toNat_byte (by omega), toNat_byte (by omega)]
      omega

theorem utf8PiecesFrom_utf8 (cs : List Char) (fuel position : Nat)
    (hfuel : (cs.flatMap utf8Char).length ≤ fuel) :
    utf8PiecesFrom fuel position (cs.flatMap utf8Char) = cs.map Utf8Piece.char := by
  induction cs generalizing fuel position with
  | nil => cases fuel <;> rfl
  | cons c cs ih =>
    obtain ⟨b, tail, hbytes, hpiece⟩ := utf8Piece_utf8Char c position (cs.flatMap utf8Char)
    rw [List.flatMap_cons, hbytes, List.cons_append] at hfuel ⊢
    simp only [List.length_cons, List.length_append] at hfuel
    obtain ⟨fuel, rfl⟩ := Nat.exists_eq_succ_of_ne_zero (show fuel ≠ 0 by omega)
    rw [utf8PiecesFrom, hpiece]
    simp only [List.drop_left', List.map_cons]
    rw [ih _ _ (by omega)]

/-- Strict reading gives back what was written. -/
theorem decodeUtf8_utf8 (s : String) : decodeUtf8 (utf8 s) = .ok s := by
  have hchars : ∀ cs : List Char, charsOfPieces (cs.map Utf8Piece.char) = .ok cs := by
    intro cs
    induction cs with
    | nil => rfl
    | cons c cs ih => rw [List.map_cons, charsOfPieces, ih]
  have hpieces : utf8Pieces (utf8 s) = s.toList.map Utf8Piece.char :=
    utf8PiecesFrom_utf8 s.toList _ 0 (Nat.le_refl _)
  rw [decodeUtf8, hpieces, hchars]
  simp [Except.map]

end KernelConfig.Text
