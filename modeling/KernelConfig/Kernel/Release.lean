import KernelConfig.Files.Tree
import KernelConfig.Text.Blank

/-!
The release of a kernel source tree, put together from four variables of its top-level makefile.
-/

set_option autoImplicit false

namespace KernelConfig.Kernel

/-- The variables that make up a release; the last one is put behind the others as it is. -/
def variableNames : List String := ["VERSION", "PATCHLEVEL", "SUBLEVEL", "EXTRAVERSION"]

/-- An assignment of one of the variables: its value ends at the first blank. Blanks, even line
breaks, may stand before the equals sign, and spaces and tabs behind it. -/
def assignmentOf? (s : List Char) (name : String) : Option ((String × String) × List Char) :=
  if name.toList.isPrefixOf s then
    match (s.drop name.length).dropWhile Text.isBlank with
    | '=' :: rest =>
      let rest := rest.dropWhile fun c => c = ' ' || c = '\t'
      let value := rest.takeWhile fun c => !Text.isBlank c
      some ((name, String.ofList value), rest.drop value.length)
    | _ => none
  else none

/-- The assignments that start at the start of a line, each search after the assignment before. -/
def assignmentsFrom : (fuel : Nat) → (lineStart : Bool) → List Char → List (String × String)
  | 0, _, _ => []
  | _, _, [] => []
  | fuel + 1, lineStart, c :: s =>
    match if lineStart then variableNames.findSome? (assignmentOf? (c :: s)) else none with
    | some (a, rest) => a :: assignmentsFrom fuel false rest
    | none => assignmentsFrom fuel (c = '\n') s

def assignments (makefile : String) : List (String × String) :=
  assignmentsFrom makefile.length true makefile.toList

/-- The release that a makefile states; the first assignment of a variable counts. -/
def releaseOf? (makefile : String) : Option String :=
  let known := assignments makefile
  let value (name : String) := (known.lookup name).getD ""
  if value "VERSION" = "" then none
  else
    let numbers := (["VERSION", "PATCHLEVEL", "SUBLEVEL"].map value).filter (· ≠ "")
    some (".".intercalate numbers ++ value "EXTRAVERSION")

/-- The release of the tree in a directory; a makefile out of reach states none. -/
def release (files : Files.Tree) (directory : Files.Path) : Except Files.ReadFault (Option String) :=
  match files.readTextLossy (directory.join ⟨"", ["Makefile"]⟩) with
  | .ok text => .ok (releaseOf? text)
  | .error (.os _) => .ok none
  | .error f => .error f

end KernelConfig.Kernel
