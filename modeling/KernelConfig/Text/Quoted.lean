import KernelConfig.Text.Digits
import KernelConfig.Text.Printable

/-!
Quoted texts in messages. The quote is single unless the text holds a single quote and no double
one; the quote, the backslash and everything unprintable are escaped.
-/

set_option autoImplicit false

namespace KernelConfig.Text

/-- The shortest of the three numbered escapes that can name the character. -/
def numberedEscape (c : Char) : List Char :=
  let n := c.toNat
  if n < 0x100 then '\\' :: 'x' :: paddedHex 2 n
  else if n < 0x10000 then '\\' :: 'u' :: paddedHex 4 n
  else '\\' :: 'U' :: paddedHex 8 n

def escapeChar (quote c : Char) : List Char :=
  if c = quote || c = '\\' then ['\\', c]
  else if c = '\n' then ['\\', 'n']
  else if c = '\r' then ['\\', 'r']
  else if c = '\t' then ['\\', 't']
  else if isPrintable c then [c]
  else numberedEscape c

def quoteFor (s : List Char) : Char :=
  if s.contains '\'' && !s.contains '"' then '"' else '\''

def quoted (s : String) : String :=
  let q := quoteFor s.toList
  String.ofList (q :: s.toList.flatMap (escapeChar q) ++ [q])

end KernelConfig.Text
