import KernelConfig.Script.Table

/-!
Sequences: the items of a table, as indexing by integers finds them one after the other.
-/

set_option autoImplicit false

namespace KernelConfig.Script.Table

/-- How many of so many items integers reach. -/
def visible (n : Nat) : Nat := (Int64.ofNat n).toInt.toNat

theorem visible_le (n : Nat) : visible n ≤ n := by
  have hsize : (Int64.size : Int) = 18446744073709551616 := rfl
  unfold visible
  rw [Int64.toInt_ofNat', Int.bmod_def, hsize]
  split <;> omega

theorem visible_of_lt {n : Nat} (h : n < 2 ^ 63) : visible n = n := by
  rw [visible, Int64.toInt_ofNat_of_lt h]
  simp

theorem visible_lt (n : Nat) : visible n < 2 ^ 63 := by
  have := (Int64.ofNat n).toInt_lt
  unfold visible
  omega

theorem position?_ofNat {t : Table} {k : Nat} (hk : k < visible t.items.size) :
    t.position? (Int64.ofNat (k + 1)) = some k := by
  have hlimit := visible_lt t.items.size
  have hi : (Int64.ofNat (k + 1)).toInt = (k : Int) + 1 := Int64.toInt_ofNat_of_lt (by omega)
  have hlow : (1 : Int64) ≤ Int64.ofNat (k + 1) := by
    rw [Int64.le_iff_toInt_le, hi]
    show (1 : Int) ≤ _
    omega
  have hhigh : Int64.ofNat (k + 1) ≤ Int64.ofNat t.items.size := by
    rw [Int64.le_iff_toInt_le, hi]
    unfold visible at hk
    omega
  simp only [position?, hlow, hhigh, hi, decide_true, Bool.and_true, if_true]
  congr 1

theorem position?_end (t : Table) : t.position? (Int64.ofNat (visible t.items.size + 1)) = none := by
  have hlimit := visible_lt t.items.size
  have hnot : ¬ (1 ≤ Int64.ofNat (visible t.items.size + 1) ∧
      Int64.ofNat (visible t.items.size + 1) ≤ Int64.ofNat t.items.size) := by
    rw [Int64.le_iff_toInt_le, Int64.le_iff_toInt_le]
    rintro ⟨hlow, hhigh⟩
    have hone : (1 : Int64).toInt = 1 := rfl
    rw [hone] at hlow
    by_cases hmax : visible t.items.size + 1 < 2 ^ 63
    · rw [Int64.toInt_ofNat_of_lt hmax] at hhigh
      unfold visible at hhigh
      omega
    · -- The next integer is the least one.
      have hsize : visible t.items.size + 1 = 2 ^ 63 := by omega
      rw [hsize] at hlow
      exact absurd hlow (by decide)
  simp only [position?, Bool.and_eq_true, decide_eq_true_eq, if_neg hnot]

theorem get_item {t : Table} {k : Nat} (hk : k < visible t.items.size) :
    t.get (.int (Int64.ofNat (k + 1))) = t.items.getD k .nil := by
  show t.getKey (.int (Int64.ofNat (k + 1))) = _
  rw [getKey, position?_ofNat hk]

/-- Behind the items of a table that has nothing else there is nothing. -/
theorem get_end (items : Array Value) :
    ({ items } : Table).get (.int (Int64.ofNat (visible items.size + 1))) = .nil := by
  show ({ items } : Table).getKey (.int (Int64.ofNat (visible items.size + 1))) = _
  rw [getKey, position?_end { items }]
  rfl

end KernelConfig.Script.Table
