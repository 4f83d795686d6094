import KernelConfig.Fault.Basic
import KernelConfig.Files.Tree
import KernelConfig.Symbol.Table
import KernelConfig.Toml.Document
import KernelConfig.Value.Scalar

/-!
Declaration files: the symbols of a table, each with its type and perhaps a range, and the table's
variables. A file declares its table whole, or all that is wrong with it is reported in order.
-/

set_option autoImplicit false

namespace KernelConfig

def Toml.Value.scalar? : Toml.Value → Option Scalar
  | .text s => some (.text s)
  | .integer i => some (.int i)
  | .float x => some (.float x)
  | .boolean b => some (.bool b)
  | _ => none

namespace Declaration

open Toml (Value)

abbrev Record := List (String × Value)

def field? (r : Record) (key : String) : Option Value := (r.find? (·.1 = key)).map (·.2)

/-- The other keys of a record are faults. -/
def onlyKeys (known : List String) (r : Record) : Shaped Unit :=
  match r.filter fun e => !known.contains e.1 with
  | [] => .ok ()
  | unknown => .error (unknown.map fun e => ⟨[e.1], .unknownKey⟩)

def bound (index : String) (v : Option Value) : Shaped Int :=
  Shaped.under index (match v with
    | some v => Shaped.of (Scalar.toInt? v.scalar?)
    | none => Shaped.fault .missing)

def range : Value → Shaped (Int × Int)
  | .array items =>
    if 2 < items.length then Shaped.fault .tooLong
    else (bound "0" items[0]?).both (bound "1" items[1]?)
  | _ => Shaped.fault .notARange

def optionalRange (v : Option Value) : Shaped (Option (Int × Int)) :=
  match v with
  | some v => (Shaped.under "range" (range v)).map some
  | none => .ok none

def type (v : Option Value) : Shaped (SymbolType × Bool) :=
  Shaped.under "type" (match v with
    | some (.text s) => match typeOfName? s with
      | some t => .ok t
      | none => Shaped.fault .notATypeName
    | some _ => Shaped.fault .notATypeName
    | none => Shaped.fault .missing)

/-- A symbol is declared by the name of its type alone or by a record. -/
def symbol (name : String) (v : Value) : Shaped Symbol :=
  match v with
  | .text _ => (type (some v)).map fun (type, hex) => { name, type, hex }
  | .table r =>
    (((type (field? r "type")).both (optionalRange (field? r "range"))).both
      (onlyKeys ["type", "range"] r)).map fun (((type, hex), range), _) => { name, type, hex, range }
  | _ => Shaped.fault .notADeclaration

/-- The entries of an optional table, each checked under its key. -/
def entries {α : Type} (check : String → Value → Shaped α) (key : String) (r : Record) :
    Shaped (List α) :=
  Shaped.under key (match field? r key with
    | none => .ok []
    | some (.table es) => Shaped.all (fun e => Shaped.under e.1 (check e.1 e.2)) es
    | some _ => Shaped.fault .notATable)

def environmentEntry (name : String) (v : Value) : Shaped (String × String) :=
  (Shaped.of (Scalar.toText? v.scalar?)).map fun s => (name, s)

def table (r : Record) : Shaped SymbolTable :=
  (((entries environmentEntry "env" r).both (entries symbol "symbols" r)).both
    (onlyKeys ["env", "symbols"] r)).map fun ((env, symbols), _) => { symbols, env }

end Declaration

namespace SymbolTable

def fileFault (path : Files.Path) (what : String) (origin : FaultOrigin) : Failure :=
  let f := Fault.of .symbolFile ("cannot load symbol file " ++ path.toString ++ ": " ++ what)
  .fault ({ f with origin := some origin }.withSource path.toString)

/-- The table that a text of a declaration file declares. -/
def ofText (path : Files.Path) (text : String) : Except Failure SymbolTable :=
  match Toml.parse text with
  | .error .malformed => .error (fileFault path "malformed document" .syntaxError)
  | .error (.oversized digits) => .error (.mishap (.oversizedInteger digits))
  | .ok r => match Declaration.table r with
    | .error faults => .error (fileFault path "misshapen declarations" (.shape faults))
    | .ok t => .ok t

/-- Reads a declaration file. -/
def ofFile (files : Files.Tree) (path : Files.Path) : Except Failure SymbolTable :=
  match files.readText path with
  | .ok text => ofText path text
  | .error (.os f) => .error (fileFault path f.message (.text f.message))
  | .error (.undecodable f) => .error (.mishap (.undecodable f))
  | .error .nullInPath => .error (.mishap .nullInPath)

end SymbolTable

end KernelConfig
