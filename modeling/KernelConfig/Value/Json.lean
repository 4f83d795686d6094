import KernelConfig.Value.Fields

/-!
Data as JSON text. Numbers that are not finite have no JSON form and become null.
-/

set_option autoImplicit false

namespace KernelConfig

namespace Json

def escapeChar (c : Char) : List Char :=
  if c = '"' || c = '\\' then ['\\', c]
  else if c = '\n' then ['\\', 'n']
  else if c = '\r' then ['\\', 'r']
  else if c = '\t' then ['\\', 't']
  else if c = '\x08' then ['\\', 'b']
  else if c = '\x0c' then ['\\', 'f']
  else if c.toNat < 32 then '\\' :: 'u' :: Text.paddedHex 4 c.toNat
  else [c]

def string (s : String) : String := String.ofList ('"' :: s.toList.flatMap escapeChar ++ ['"'])

end Json

namespace Datum

mutual

def json : Datum → String
  | null => "null"
  | bool b => if b then "true" else "false"
  | int i => Text.signedDecimal i
  | float x => if x.isFinite then Decimal.shortestText x else "null"
  | text s => Json.string s
  | tristate t => Json.string t.text
  | list items => "[" ++ ", ".intercalate (jsonItems items) ++ "]"
  | dict fields => "\x7b" ++ ", ".intercalate (jsonFields fields) ++ "\x7d"
  | handle h => Json.string h.kindName

def jsonItems : List Datum → List String
  | [] => []
  | d :: rest => d.json :: jsonItems rest

def jsonFields : List (String × Datum) → List String
  | [] => []
  | (k, d) :: rest => (Json.string k ++ ": " ++ d.json) :: jsonFields rest

end

end Datum

/-- Fields as a JSON object with a line for each. -/
def Fields.jsonLines (fs : Fields) : String :=
  if fs.isEmpty then "\x7b\x7d"
  else "\x7b\n  " ++ ",\n  ".intercalate (Datum.jsonFields fs) ++ "\n\x7d"

end KernelConfig
