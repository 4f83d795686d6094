/-!
Letter case of names that are compared with ASCII words. Beyond ASCII only the letters whose other
case holds an ASCII letter matter there: the Kelvin sign, the dotted capital I and the dotless i.
-/

set_option autoImplicit false

namespace KernelConfig.Text

def lowerChar (c : Char) : List Char :=
  if c = '\u212a' then ['k']
  else if c = '\u0130' then ['i', '\u0307']
  else [c.toLower]

def lower (s : String) : String := String.ofList (s.toList.flatMap lowerChar)

def upperChar (c : Char) : Char := if c = '\u0131' then 'I' else if c = '\u017f' then 'S' else c.toUpper

def upper (s : String) : String := s.map upperChar

end KernelConfig.Text
