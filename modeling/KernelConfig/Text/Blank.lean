/-!
Blank characters: the Unicode white space together with the four information separators.
-/

set_option autoImplicit false

namespace KernelConfig.Text

/-- Membership in a list of closed ranges of code points. -/
def inRanges (ranges : List (Nat × Nat)) (n : Nat) : Bool :=
  ranges.any fun r => r.1 ≤ n && n ≤ r.2

def blankRanges : List (Nat × Nat) :=
  [(0x09, 0x0D), (0x1C, 0x20), (0x85, 0x85), (0xA0, 0xA0), (0x1680, 0x1680), (0x2000, 0x200A),
   (0x2028, 0x2029), (0x202F, 0x202F), (0x205F, 0x205F), (0x3000, 0x3000)]

def isBlank (c : Char) : Bool := inRanges blankRanges c.toNat

theorem isBlank_of_isWhitespace (c : Char) (h : c.isWhitespace = true) : isBlank c = true := by
  simp [Char.isWhitespace] at h
  rcases h with ((h | h) | h) | h <;> subst h <;> decide

def stripStart (s : List Char) : List Char := s.dropWhile isBlank

def stripEnd (s : List Char) : List Char := (s.reverse.dropWhile isBlank).reverse

/-- The text without the blanks at its two ends. -/
def strip (s : List Char) : List Char := stripEnd (stripStart s)

def stripText (s : String) : String := String.ofList (strip s.toList)

end KernelConfig.Text
