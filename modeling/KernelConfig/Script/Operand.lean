import KernelConfig.Script.Code
import KernelConfig.Script.Scope

/-!
Expressions as code. An operand knows how to leave its value on the stack, and for what can be
assigned to or has several values, what else can be done with it.
-/

set_option autoImplicit false

namespace KernelConfig.Script

inductive Operand where
  | value (code : Code) (origin : Option Origin)
  | slot (i : Nat) (name : Bytes) (kind : VariableKind) (line : Nat)
  | upvalue (i : Nat) (name : Bytes) (kind : VariableKind) (line : Nat)
  /-- A field: the code for the table and for the key, the key if it is a fixed name, where the
  table and the field come from, and the name of a global that must not be assigned to. -/
  | indexed (table key : Code) (name : Option Bytes) (tableOrigin origin : Option Origin)
      (readOnly : Option Bytes) (line : Nat)
  | call (code : Code) (arguments : Nat) (spread : Bool) (origin : Option Origin) (line : Nat)
  | varargs (line : Nat)
  | concat (parts : List (Code × Option Origin)) (line : Nat)

namespace Operand

def origin : Operand → Option Origin
  | value _ o => o
  | slot _ name _ _ => some ⟨.localVariable, name⟩
  | upvalue _ name _ _ => some ⟨.upvalue, name⟩
  | indexed _ _ _ _ o _ _ => o
  | _ => none

/-- Leaves exactly one value on the stack. -/
def code : Operand → Code
  | value c _ => c
  | slot i _ _ line => [⟨.getSlot i, line⟩]
  | upvalue i _ _ line => [⟨.getUpvalue i, line⟩]
  | indexed table _ (some name) tableOrigin _ _ line => table ++ [⟨.field name tableOrigin, line⟩]
  | indexed table key none tableOrigin _ _ line => table ++ key ++ [⟨.index tableOrigin, line⟩]
  | call c n spread o line => c ++ [⟨.call n spread (.exactly 1) o, line⟩]
  | varargs line => [⟨.varargs (.exactly 1), line⟩]
  | concat parts line => (parts.flatMap (·.1)) ++ [⟨.concat (parts.map (·.2)), line⟩]

def isMulti : Operand → Bool
  | call .. | varargs _ => true
  | _ => false

/-- Leaves as many values as wanted, for an operand that can have several. -/
def codeFor (want : Want) : Operand → Code
  | call c n spread o line => c ++ [⟨.call n spread want o, line⟩]
  | varargs line => [⟨.varargs want, line⟩]
  | e => e.code

/-- The value of an operand in parentheses: it has one value and cannot be assigned to. -/
def parenthesized (e : Operand) : Operand :=
  match e with
  | concat parts line => concat parts line
  | e => value e.code e.origin

/-- The operands of a concatenation, a concatenation on the right being part of it. -/
def concatParts : Operand → List (Code × Option Origin)
  | concat parts _ => parts
  | e => [(e.code, e.origin)]

def isAssignable : Operand → Bool
  | slot .. | upvalue .. | indexed .. => true
  | _ => false

/-- The name of a variable that must not be assigned to. -/
def readOnlyName : Operand → Option Bytes
  | slot _ name kind _ | upvalue _ name kind _ => if kind.isReadOnly then some name else none
  | indexed _ _ _ _ _ readOnly _ => readOnly
  | _ => none

/-- The field of a table under a fixed name. -/
def field (table : Operand) (name : Bytes) (line : Nat) : Operand :=
  indexed table.code [⟨.push (.string name), line⟩] (some name) table.origin
    (some ⟨.field, name⟩) none line

/-- What messages say of a value under a computed key. -/
def keyOrigin : Operand → Origin
  | value [⟨.push (.int i), _⟩] _ =>
    ⟨.field, bytes (if 0 ≤ i && i ≤ 255 then "integer index" else "?")⟩
  | _ => ⟨.field, bytes "?"⟩

def element (table key : Operand) (line : Nat) : Operand :=
  match key with
  | value [⟨.push (.string name), _⟩] _ => table.field name line
  | key => indexed table.code key.code none table.origin (some (keyOrigin key)) none line

/-- The code of a list of expressions, how many values it leaves on the stack, and whether the last
one has all its values put aside. -/
def listCode : List Operand → Code × Nat × Bool
  | [] => ([], 0, false)
  | [e] => if e.isMulti then (e.codeFor .all, 0, true) else (e.code, 1, false)
  | e :: rest => let (c, n, spread) := listCode rest; (e.code ++ c, n + 1, spread)

def nils (n line : Nat) : Code := List.replicate n ⟨.push .nil, line⟩

/-- The code of a list of expressions that leaves exactly `n` values. -/
def adjusted (line : Nat) : (n : Nat) → List Operand → Code
  | n, [] => nils n line
  | n, [e] =>
    if e.isMulti then
      if n = 0 then e.codeFor (.exactly 0) else e.codeFor (.exactly n)
    else if n = 0 then e.code ++ [⟨.pop, line⟩]
    else e.code ++ nils (n - 1) line
  | 0, e :: rest => e.code ++ [⟨.pop, line⟩] ++ adjusted line 0 rest
  | n + 1, e :: rest => e.code ++ adjusted line n rest

end Operand

end KernelConfig.Script
