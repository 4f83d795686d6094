import KernelConfig.Console.Width
import KernelConfig.Text.Blank

/-!
Text on a terminal of limited width. Lines are broken between words; a word that is too long for
any line is folded.
-/

set_option autoImplicit false

namespace KernelConfig.Console

/-- Control characters that move the cursor are not shown. -/
def isShown (c : Char) : Bool := !([7, 8, 11, 12, 13].contains c.toNat)

/-- Tabs become blanks up to the next multiple of eight columns. -/
def expandTabs (column : Nat) : List Char → List Char
  | [] => []
  | c :: s =>
    if c = '\t' then
      let blanks := 8 - column % 8
      List.replicate blanks ' ' ++ expandTabs (column + blanks) s
    else c :: expandTabs (column + charWidth c) s

/-- Words with the blanks behind them; blanks before the first word belong to it. -/
def words : (fuel : Nat) → List Char → List (List Char)
  | 0, _ => []
  | fuel + 1, s =>
    let before := s.takeWhile Text.isBlank
    let s := s.drop before.length
    let word := s.takeWhile fun c => !Text.isBlank c
    let s := s.drop word.length
    let after := s.takeWhile Text.isBlank
    if word.isEmpty then [] else (before ++ word ++ after) :: words fuel (s.drop after.length)

/-- A text cut into pieces of at most so many columns. -/
def chop (columns : Nat) (piece : List Char) (used : Nat) : List Char → List (List Char)
  | [] => [piece.reverse]
  | c :: s =>
    let w := charWidth c
    if used + w ≤ columns then chop columns (c :: piece) (used + w) s
    else piece.reverse :: chop columns [c] w s

/-- Puts words on lines; `line` is the current line, of which `used` columns are taken. -/
def fill (columns : Nat) (fold : Bool) (line : List Char) (used : Nat) :
    List (List Char) → List (List Char)
  | [] => [line]
  | word :: rest =>
    let need := width (Text.stripEnd word)
    if used + need ≤ columns then fill columns fold (line ++ word) (used + width word) rest
    else
      let before := if line.isEmpty then [] else [line]
      if columns < need && fold then
        let parts := chop columns [] 0 word
        let last := parts.getLastD []
        before ++ parts.dropLast ++ fill columns fold last (width last) rest
      else before ++ fill columns fold word (width word) rest

/-- The lines of one line of text; a line without words stays whole. -/
def wrapLine (columns : Nat) (fold : Bool) (s : List Char) : List (List Char) :=
  let s := expandTabs 0 s
  match words s.length s with
  | [] => [s]
  | ws => fill columns fold [] 0 ws

/-- The pieces between line feeds. -/
def splitLines (line : List Char) : List Char → List (List Char)
  | [] => [line.reverse]
  | c :: s => if c = '\n' then line.reverse :: splitLines [] s else splitLines (c :: line) s

/-- Drops blanks from the start of a text as long as it takes more than so many columns. -/
def dropExcess (columns : Nat) : List Char → List Char
  | [] => []
  | c :: s => if columns < width (c :: s) && Text.isBlank c then dropExcess columns s else c :: s

/-- A line without the blanks at its end that do not fit. -/
def trimEnd (columns : Nat) (line : List Char) : List Char :=
  (dropExcess columns line.reverse).reverse

/-- The lines of a text. -/
def wrap (columns : Nat) (s : String) : List String :=
  ((splitLines [] (s.toList.filter isShown)).flatMap (wrapLine columns true)).map fun line =>
    String.ofList (trimEnd columns line)

end KernelConfig.Console
