import KernelConfig.Script.Task
import KernelConfig.Script.Token

/-!
Positions in messages: the short name of a chunk, and its line. The name of a chunk begins with a
mark that says what it is: a file, a name of its own, or else the text of the chunk.
-/

set_option autoImplicit false

namespace KernelConfig.Script

/-- Short names have at most fifty-nine bytes: of a file's name the end is kept, of any other the beginning. -/
def shortSource (source : Bytes) : Bytes :=
  match source with
  | 61 :: name => name.take 59
  | 64 :: name => if source.length ≤ 60 then name else bytes "..." ++ name.drop (name.length - 56)
  | text =>
    let firstLine := text.takeWhile (· != 10)
    let kept := if firstLine.length = text.length && text.length < 45 then text
      else firstLine.take 45 ++ bytes "..."
    bytes "[string \"" ++ kept ++ bytes "\"]"

def positionText (source : Bytes) (line : Nat) : Bytes :=
  shortSource source ++ bytes (":" ++ Text.decimal line ++ ":")

/-- The message of a fault in a source text. -/
def SourceFault.text (f : SourceFault) (source : Bytes) : Bytes :=
  let near := if f.near.isEmpty then [] else bytes " near " ++ f.near
  if f.line = 0 then f.message else positionText source f.line ++ bytes " " ++ f.message ++ near

namespace Level

def function? (s : Store) (l : Level) : Option Function :=
  match l.function with
  | .closure id => some (s.closure id).function
  | _ => none

def source (s : Store) (l : Level) : Bytes := ((l.function? s).map (·.source)).getD (bytes "=[C]")

end Level

end KernelConfig.Script
