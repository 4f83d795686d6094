import KernelConfig.Script.Code
import KernelConfig.Script.Lexer

/-!
Scopes: which variable a name means at a place of the source text. A name that is declared nowhere
is a field of the environment.
-/

set_option autoImplicit false

namespace KernelConfig.Script

inductive VariableKind where
  | regular
  | constant
  | toClose
  deriving DecidableEq, Repr

def VariableKind.isReadOnly : VariableKind → Bool
  | regular => false
  | _ => true

/-- A declaration that is in force: a local variable, a global name, or all global names. -/
inductive Declared where
  | slot (name : Bytes) (kind : VariableKind) (slot : Nat)
  | global (name : Bytes) (readOnly : Bool)
  | globals (readOnly : Bool)
  deriving DecidableEq, Repr

def Declared.name : Declared → Bytes
  | slot n _ _ | global n _ => n
  | globals _ => bytes "*"

structure Label where
  name : Bytes
  line : Nat
  number : Nat
  /-- How many declarations are in force at the label. -/
  depth : Nat
  deriving DecidableEq, Repr

structure Goto where
  name : Bytes
  line : Nat
  number : Nat
  depth : Nat
  deriving DecidableEq, Repr

structure Block where
  /-- How many declarations were in force before the block. -/
  depth : Nat
  firstSlot : Nat
  breakLabel : Option Nat
  labels : List Label := []
  gotos : List Goto := []
  deriving DecidableEq, Repr

structure UpvalueEntry where
  name : Bytes
  kind : VariableKind
  capture : Capture
  deriving DecidableEq, Repr

/-- A function whose text is being read. -/
structure FunctionScope where
  index : Nat
  lineDefined : Nat
  parameters : Nat := 0
  varargs : Bool := false
  /-- Declarations in force, latest first. -/
  declared : List Declared := []
  blocks : List Block := []
  upvalues : List UpvalueEntry := []
  nextSlot : Nat := 0
  slots : Nat := 0
  nextLabel : Nat := 0
  aliases : List (Nat × Nat) := []
  deriving DecidableEq, Repr, Inhabited

def FunctionScope.depth (f : FunctionScope) : Nat := f.declared.length

/-- What is known about a name that no local declaration has. -/
inductive GlobalStatus where
  | free
  | undeclared
  | declared (readOnly : Bool)
  deriving DecidableEq, Repr

inductive Meaning where
  | slot (i : Nat) (kind : VariableKind)
  | upvalue (i : Nat) (kind : VariableKind)
  | global (status : GlobalStatus)
  deriving DecidableEq, Repr

inductive Search where
  | slot (i : Nat) (kind : VariableKind)
  | named (readOnly : Bool)
  | none (status : GlobalStatus)

/-- Searches the declarations of one function; `status` is what inner declarations say about global names. -/
def searchDeclared (name : Bytes) (status : GlobalStatus) : List Declared → Search
  | [] => .none status
  | .slot n kind i :: rest => if n == name then .slot i kind else searchDeclared name status rest
  | .global n readOnly :: rest =>
    if n == name then .named readOnly
    else searchDeclared name (if status = .free then .undeclared else status) rest
  | .globals readOnly :: rest =>
    let status := match status with
      | .declared r => .declared r
      | _ => .declared readOnly
    searchDeclared name status rest

/-- The meaning of a name in the innermost of some functions, which gain upvalues by it. -/
def meaning (name : Bytes) (status : GlobalStatus) :
    List FunctionScope → Meaning × List FunctionScope
  | [] => (.global status, [])
  | f :: outer =>
    match searchDeclared name status f.declared with
    | .slot i kind => (.slot i kind, f :: outer)
    | .named readOnly => (.global (.declared readOnly), f :: outer)
    | .none status =>
      match f.upvalues.findIdx? (·.name == name) with
      | some i => (.upvalue i ((f.upvalues[i]?.map (·.kind)).getD .regular), f :: outer)
      | none =>
        let (m, outer) := meaning name status outer
        let add (capture : Capture) (kind : VariableKind) : Meaning × List FunctionScope :=
          (.upvalue f.upvalues.length kind,
            { f with upvalues := f.upvalues ++ [⟨name, kind, capture⟩] } :: outer)
        match m with
        | .slot i kind => add (.slot i) kind
        | .upvalue i kind => add (.upvalue i) kind
        | .global status => (.global status, f :: outer)

end KernelConfig.Script
