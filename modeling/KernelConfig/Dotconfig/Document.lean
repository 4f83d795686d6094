import KernelConfig.Dotconfig.Line
import KernelConfig.Fault.Basic
import KernelConfig.Text.Lines

/-!
Configuration files: their assignments in order, up to the first line that cannot be read.
-/

set_option autoImplicit false

namespace KernelConfig.Dotconfig

structure Entry extends Assignment where
  line : Nat
  deriving DecidableEq, Repr

/-- What is wrong with the line of a given number. -/
structure DocumentFault where
  line : Nat
  cause : LineFault
  deriving DecidableEq, Repr

def DocumentFault.fault (f : DocumentFault) (source : String) : Fault :=
  let place := source ++ ":" ++ Text.decimal f.line ++ ": "
  let what := match f.cause with
    | .unterminated => "unterminated string"
    | .malformed raw => "malformed line " ++ Text.quoted raw
  ((Fault.of .configLoad (place ++ what)).withSource source).withLine f.line

/-- The entries before the first bad line, and that line's fault. -/
structure Document where
  entries : List Entry
  failure : Option DocumentFault
  deriving DecidableEq, Repr

def readLines (lead : List Char) (number : Nat) : List (List Char) → Document
  | [] => ⟨[], none⟩
  | raw :: rest => match readLine lead raw with
    | .error cause => ⟨[], some ⟨number, cause⟩⟩
    | .ok none => readLines lead (number + 1) rest
    | .ok (some a) =>
      let d := readLines lead (number + 1) rest
      ⟨{ a with line := number } :: d.entries, d.failure⟩

def read (lead text : String) : Document := readLines lead.toList 1 (Text.lines text.toList)

end KernelConfig.Dotconfig
