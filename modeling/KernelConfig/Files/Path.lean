/-!
Paths in their normal form: a root of no, one or two slashes, and parts that are neither empty nor
a single dot. A part of two dots stays.
-/

set_option autoImplicit false

namespace KernelConfig.Files

structure Path where
  root : String
  parts : List String
  deriving DecidableEq, Repr, Inhabited

namespace Path

/-- The pieces between slashes; `piece` holds the characters of the current one, last one first. -/
def pieces (piece : List Char) : List Char → List String
  | [] => [String.ofList piece.reverse]
  | c :: rest =>
    if c = '/' then String.ofList piece.reverse :: pieces [] rest else pieces (c :: piece) rest

def leadingSlashes : List Char → Nat
  | [] => 0
  | c :: rest => if c = '/' then leadingSlashes rest + 1 else 0

/-- Exactly two leading slashes are kept; more of them count as one. -/
def ofString (s : String) : Path :=
  let root := match leadingSlashes s.toList with
    | 0 => ""
    | 2 => "//"
    | _ => "/"
  ⟨root, (pieces [] s.toList).filter fun p => p ≠ "" && p ≠ "."⟩

def toString (p : Path) : String :=
  let body := "/".intercalate p.parts
  if p.root = "" && p.parts.isEmpty then "." else p.root ++ body

def isAbsolute (p : Path) : Bool := p.root ≠ ""

def parent (p : Path) : Path := ⟨p.root, p.parts.dropLast⟩

/-- An absolute second path replaces the first one. -/
def join (p q : Path) : Path := if q.isAbsolute then q else ⟨p.root, p.parts ++ q.parts⟩

/-- The last part from its last dot on, unless the dot begins or ends the part. -/
def suffix (p : Path) : String :=
  let name := (p.parts.getLast?.getD "").toList
  let tail := (name.reverse.takeWhile (· ≠ '.')).reverse
  if tail.isEmpty || name.length ≤ tail.length + 1 then "" else String.ofList ('.' :: tail)

end Path

end KernelConfig.Files
