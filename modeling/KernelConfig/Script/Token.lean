import KernelConfig.Script.Numeral

/-!
Tokens of the scripting language, and how error messages show them.
-/

set_option autoImplicit false

namespace KernelConfig.Script

inductive Keyword where
  | and | break | do | else | elseif | end | false | for | function | goto | if | in | local | nil
  | not | or | repeat | return | then | true | until | while
  deriving DecidableEq, Repr

namespace Keyword

def text : Keyword → String
  | and => "and" | «break» => "break" | «do» => "do" | «else» => "else" | elseif => "elseif"
  | «end» => "end" | false => "false" | «for» => "for" | function => "function" | goto => "goto"
  | «if» => "if" | «in» => "in" | «local» => "local" | nil => "nil" | not => "not" | or => "or"
  | «repeat» => "repeat" | «return» => "return" | «then» => "then" | true => "true"
  | «until» => "until" | «while» => "while"

def all : List Keyword :=
  [and, «break», «do», «else», elseif, «end», false, «for», function, goto, «if», «in», «local»,
    nil, not, or, «repeat», «return», «then», true, «until», «while»]

def table : List (Bytes × Keyword) := all.map fun k => (bytes k.text, k)

def ofName? (s : Bytes) : Option Keyword := (table.find? (·.1 == s)).map (·.2)

end Keyword

/-- Operators and punctuation of more than one character. -/
inductive Mark where
  | idiv | concat | dots | eq | ge | le | ne | shl | shr | dbcolon
  deriving DecidableEq, Repr

def Mark.text : Mark → String
  | idiv => "//" | concat => ".." | dots => "..." | eq => "==" | ge => ">=" | le => "<="
  | ne => "~=" | shl => "<<" | shr => ">>" | dbcolon => "::"

/-- Operators and punctuation of one character stand for themselves, as does any byte that begins no other token. -/
inductive Token where
  | keyword (k : Keyword)
  | mark (m : Mark)
  | single (b : UInt8)
  | name (s : Bytes)
  | string (s : Bytes)
  | int (i : Int64)
  | float (x : Double)
  | eof
  deriving DecidableEq, Repr

def isPrintableByte (b : UInt8) : Bool := 32 ≤ b && b ≤ 126

def singleText (b : UInt8) : Bytes :=
  if isPrintableByte b then bytes "'" ++ [b] ++ bytes "'"
  else bytes ("'<\\" ++ Text.decimal b.toNat ++ ">'")

/-- A token as messages show it: names, strings and numbers by the text they were read from. -/
def Token.shown (text : Bytes) : Token → Bytes
  | keyword k => bytes ("'" ++ k.text ++ "'")
  | mark m => bytes ("'" ++ m.text ++ "'")
  | single b => singleText b
  | name _ | string _ | int _ | float _ => bytes "'" ++ text ++ bytes "'"
  | eof => bytes "<eof>"

/-- A kind of token as messages show it. -/
def Token.expected : Token → Bytes
  | name _ => bytes "<name>"
  | string _ => bytes "<string>"
  | int _ => bytes "<integer>"
  | float _ => bytes "<number>"
  | t => t.shown []

/-- A token with the line on which it ends and the text it was read from. -/
structure Lexeme where
  token : Token
  line : Nat
  text : Bytes
  deriving DecidableEq, Repr

/-- A message about source text: the line and what to show after `near`. -/
structure SourceFault where
  line : Nat
  message : Bytes
  near : Bytes
  deriving DecidableEq, Repr

end KernelConfig.Script
