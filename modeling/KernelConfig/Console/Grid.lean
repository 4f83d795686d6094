import KernelConfig.Console.Wrap
import KernelConfig.Text.Lines

/-!
Tables with a frame: a heavy head and light rows. Columns are as wide as their longest cell; where
the terminal is too narrow, the widest ones give way and longer words are cut off.
-/

set_option autoImplicit false

namespace KernelConfig.Console.Grid

abbrev Row := List String

/-- The columns that the lines of a cell take. -/
def cellWidth (s : String) : Nat := ((Text.lines (s.toList.filter isShown)).map width).foldl max 0

def columnWidths (rows : List Row) : List Nat :=
  rows.foldl (fun ws row => List.zipWith max ws (row.map (cellWidth · + 2)))
    (((rows.head?.getD []).map fun _ => 0))

/-- A quotient rounded to the nearest natural number, a tie to the even one. -/
def share (part whole : Nat) : Nat :=
  let q := part / whole
  let r := 2 * (part % whole)
  if r < whole || (r = whole && q % 2 = 0) then q else q + 1

/-- Takes `total` off the chosen columns, at most `limit` off each. -/
def reduce (limit : Nat) : (total chosen : Nat) → List (Nat × Bool) → List Nat
  | _, _, [] => []
  | total, chosen, (w, true) :: rest =>
    let cut := min limit (share total chosen)
    (w - cut) :: reduce limit (total - cut) (chosen - 1) rest
  | total, chosen, (w, false) :: rest => w :: reduce limit total chosen rest

def totalWidth (ws : List Nat) : Nat := ws.foldl (· + ·) 0

/-- Narrows the widest columns, step by step down to the next narrower ones, until the sum fits. -/
def collapse (room : Nat) : (fuel : Nat) → List Nat → List Nat
  | 0, ws => ws
  | fuel + 1, ws =>
    let excess := totalWidth ws - room
    let widest := ws.foldl max 0
    let second := (ws.filter (· ≠ widest)).foldl max 0
    if excess = 0 || widest = second then ws
    else
      let limit := min excess (widest - second)
      let chosen := (ws.filter (· = widest)).length
      collapse room fuel (reduce limit excess chosen (ws.map fun w => (w, w == widest)))

/-- Where even equal columns do not fit, all are narrowed alike. -/
def fitted (room : Nat) (ws : List Nat) : List Nat :=
  let ws := collapse room (totalWidth ws + 1) ws
  if totalWidth ws ≤ room then ws
  else
    let excess := totalWidth ws - room
    -- A column gives at most its own width.
    (ws.foldl (fun (acc : List Nat × Nat × Nat) w =>
      let (done, total, left) := acc
      let cut := min w (share total left)
      (done ++ [w - cut], total - cut, left - 1)) ([], excess, ws.length)).1

/-- A line in so many columns; what does not fit is cut off and marked. -/
def cellLine (columns : Nat) (s : List Char) : List Char :=
  let s := trimEnd columns s
  if width s ≤ columns then fit columns s else fit (columns - 1) s ++ ['…']

/-- The lines of a cell with a blank at either side. -/
def cellLines (columns : Nat) (s : String) : List (List Char) :=
  let inner := columns - 2
  let lines := (splitLines [] (s.toList.filter isShown)).flatMap (wrapLine inner false)
  lines.map fun line => ' ' :: cellLine inner line ++ [' ']

/-- The lines of a row, its cells filled up to the same height. -/
def rowLines (edge divider : Char) (ws : List Nat) (row : Row) : List String :=
  let cells := List.zipWith cellLines ws row
  let height := (cells.map List.length).foldl max 0
  let cells := List.zipWith (fun w cell =>
    cell ++ List.replicate (height - cell.length) (List.replicate w ' ')) ws cells
  (List.range height).map fun i =>
    let parts := cells.map fun cell => cell.getD i []
    String.ofList (edge :: [divider].intercalate parts ++ [edge])

def rule (left line divider right : Char) (ws : List Nat) : String :=
  String.ofList (left :: [divider].intercalate (ws.map (List.replicate · line)) ++ [right])

/-- A table of so many columns at most: its head and its rows. -/
def render (columns : Nat) (head : Row) (rows : List Row) : List String :=
  let ws := columnWidths (head :: rows)
  let room := columns - (ws.length + 1)
  let ws := if totalWidth ws ≤ room then ws else fitted room ws
  [rule '┏' '━' '┳' '┓' ws] ++ rowLines '┃' '┃' ws head ++ [rule '┡' '━' '╇' '┩' ws]
    ++ rows.flatMap (rowLines '│' '│' ws) ++ [rule '└' '─' '┴' '┘' ws]

end KernelConfig.Console.Grid
