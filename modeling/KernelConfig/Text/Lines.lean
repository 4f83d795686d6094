/-!
Line boundaries: the line feed, the carriage return alone or before a line feed, the vertical and
the form feed, three information separators, and the next-line, line and paragraph separators.
-/

set_option autoImplicit false

namespace KernelConfig.Text

def isLineBreak (c : Char) : Bool :=
  c == '\n' || c == '\r' || c == '\x0b' || c == '\x0c' || c == '\x1c' || c == '\x1d' || c == '\x1e'
    || c == '\u0085' || c == '\u2028' || c == '\u2029'

/-- `line` holds the characters of the current line, last one first. -/
def linesFrom (line : List Char) : List Char → List (List Char)
  | [] => if line.isEmpty then [] else [line.reverse]
  | '\r' :: '\n' :: rest => line.reverse :: linesFrom [] rest
  | c :: rest =>
    if isLineBreak c then line.reverse :: linesFrom [] rest else linesFrom (c :: line) rest

/-- The lines of a text without their ends; a text that ends in a boundary has no empty last line. -/
def lines (s : List Char) : List (List Char) := linesFrom [] s

/-- Reading a file turns a carriage return, alone or before a line feed, into a line feed. -/
def universalNewlines : List Char → List Char
  | [] => []
  | '\r' :: '\n' :: rest => '\n' :: universalNewlines rest
  | c :: rest => (if c = '\r' then '\n' else c) :: universalNewlines rest

end KernelConfig.Text
