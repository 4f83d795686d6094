import KernelConfig.Files.Path
import KernelConfig.Text.Lines
import KernelConfig.Text.Quoted
import KernelConfig.Text.Utf8

/-!
A tree of files around a working directory, and the ways in which reading a path can fail. Outside the
working directory there are the directories above it and the root directory, and what has been written
there; nothing else is known.
-/

set_option autoImplicit false

namespace KernelConfig.Files

inductive Entry where
  | file (content : Bytes)
  | directory
  deriving DecidableEq, Repr

/-- Files and directories by their places: the parts below the working directory, or below one above it,
which is as many times two dots as it is levels up, or below the root, which is an empty part. -/
structure Tree where
  entries : List (List String × Entry)
  deriving Repr, Inhabited

/-- Failures reported by the operating system. -/
inductive OsCode where
  | missing
  | notADirectory
  | isADirectory
  deriving DecidableEq, Repr

def OsCode.number : OsCode → Nat
  | .missing => 2
  | .notADirectory => 20
  | .isADirectory => 21

def OsCode.description : OsCode → String
  | .missing => "No such file or directory"
  | .notADirectory => "Not a directory"
  | .isADirectory => "Is a directory"

structure OsFault where
  code : OsCode
  path : String
  deriving DecidableEq, Repr

def OsFault.message (f : OsFault) : String :=
  "[Errno " ++ Text.decimal f.code.number ++ "] " ++ f.code.description ++ ": " ++ Text.quoted f.path

/-- Why a text could not be read from a file. -/
inductive ReadFault where
  | os (fault : OsFault)
  | undecodable (fault : Text.Utf8Fault)
  | nullInPath
  deriving DecidableEq, Repr

namespace Tree

def rootPlace : List String := [""]

/-- The place of the directory around a directory; the root is around itself. -/
def around (place : List String) : List String :=
  if place = rootPlace then place
  else if place.all (· = "..") then ".." :: place
  else place.dropLast

def lookup (t : Tree) (place : List String) : Option Entry :=
  if place = rootPlace || place.all (· = "..") then some .directory
  else match t.entries.find? (·.1 = place) with
    | some (_, e) => some e
    | none =>
      if t.entries.any fun e => place.isPrefixOf e.1 then some .directory else none

/-- Walks from the directory `at_` along the parts; every part but the last must be a directory. -/
def resolve (t : Tree) (at_ : List String) : List String → Except OsCode (List String × Entry)
  | [] => .ok (at_, .directory)
  | part :: rest =>
    if part = ".." then t.resolve (around at_) rest
    else match t.lookup (at_ ++ [part]) with
      | none => .error .missing
      | some .directory => t.resolve (at_ ++ [part]) rest
      | some (.file content) =>
        if rest.isEmpty then .ok (at_ ++ [part], .file content) else .error .notADirectory

def find (t : Tree) (p : Path) : Except OsCode (List String × Entry) :=
  t.resolve (if p.isAbsolute then rootPlace else []) p.parts

def readBytes (t : Tree) (p : Path) : Except ReadFault Bytes :=
  if p.toString.contains '\x00' then .error .nullInPath
  else match t.find p with
    | .error code => .error (.os ⟨code, p.toString⟩)
    | .ok (_, .directory) => .error (.os ⟨.isADirectory, p.toString⟩)
    | .ok (_, .file content) => .ok content

/-- The text of a file, whatever its bytes. -/
def readTextLossy (t : Tree) (p : Path) : Except ReadFault String :=
  (t.readBytes p).map fun content =>
    String.ofList (Text.universalNewlines (Text.decodeUtf8Lossy content).toList)

/-- A text file is UTF-8 and its line ends are read as line feeds. -/
def readText (t : Tree) (p : Path) : Except ReadFault String :=
  match t.readBytes p with
  | .error fault => .error fault
  | .ok content => match Text.decodeUtf8 content with
    | .error fault => .error (.undecodable fault)
    | .ok text => .ok (String.ofList (Text.universalNewlines text.toList))

/-- Writes a file, replacing one at the same place. -/
def write (t : Tree) (parts : List String) (content : Bytes) : Tree :=
  if t.entries.any (·.1 = parts) then
    ⟨t.entries.map fun e => if e.1 = parts then (parts, .file content) else e⟩
  else ⟨t.entries ++ [(parts, .file content)]⟩

/-- Whether a path as it is written names a file; a slash at its end asks for a directory. -/
def isFile (t : Tree) (written : String) : Bool :=
  match t.find (Path.ofString written) with
  | .ok (_, .file _) => !(written.endsWith "/" || written.endsWith "/.")
  | _ => false

/-- Writes a text to a path; its directory must be there. -/
def writeText (t : Tree) (p : Path) (text : String) : Except OsFault Tree :=
  let fault (code : OsCode) : Except OsFault Tree := .error ⟨code, p.toString⟩
  match p.parts.getLast? with
  | none => fault .isADirectory
  | some name => match t.find p.parent with
    | .error code => fault code
    | .ok (_, .file _) => fault .notADirectory
    | .ok (directory, .directory) =>
      if name = ".." || t.lookup (directory ++ [name]) = some .directory then fault .isADirectory
      else .ok (t.write (directory ++ [name]) (Text.utf8 text))

end Tree

end KernelConfig.Files
