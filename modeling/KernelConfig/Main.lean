import KernelConfig.Command.Program

/-!
The program on the command line: it reads the working directory and the variables of the process,
runs a command on them, and writes what the command has printed and the files that it has changed.
-/

set_option autoImplicit false

namespace KernelConfig.Main

/-- The files below a directory. -/
partial def entriesBelow (parts : List String) (directory : IO.FS.DirEntry) :
    IO (List (List String × Files.Entry)) := do
  let children ← directory.path.readDir
  let found ← children.toList.mapM fun child => do
    let parts := parts ++ [child.fileName]
    if ← child.path.isDir then
      return (parts, .directory) :: (← entriesBelow parts child)
    else
      try return [(parts, .file (← IO.FS.readBinFile child.path).toList)]
      catch _ => return []
  return found.flatten

/-- The variables of the process. -/
def environment : IO (List (String × String)) := do
  let content ←
    try IO.FS.readBinFile "/proc/self/environ"
    catch _ => pure ByteArray.empty
  let text := Text.decodeUtf8Lossy content.toList
  return ((text.toList.splitOn '\x00').filter fun v => v.contains '=').map fun v =>
    (String.ofList (v.takeWhile (· ≠ '=')), String.ofList ((v.dropWhile (· ≠ '=')).drop 1))

/-- Writes the files that a run has changed. -/
def writeChanges (before after : Files.Tree) : IO Unit :=
  after.entries.forM fun (parts, entry) => do
    if before.entries.lookup parts != some entry then
      match entry with
      | .file content => IO.FS.writeBinFile ("/".intercalate parts) ⟨content.toArray⟩
      | .directory => return ()

end KernelConfig.Main

open KernelConfig in
def main (arguments : List String) : IO UInt32 := do
  let files : Files.Tree := ⟨← Main.entriesBelow [] ⟨".", "."⟩⟩
  let (o, trouble) := Command.run files (← Main.environment) arguments
  Main.writeChanges files o.files
  o.logs.reverse.forM fun r => IO.eprintln (Datum.dict r).json
  IO.print (Command.Outcome.text o.out)
  IO.eprint (Command.Outcome.text o.err)
  trouble.forM fun
    | .inl f => IO.eprintln f.message
    | .inr f => IO.eprintln f.message
  return o.exitCode.toUInt32
