import KernelConfig.Dotconfig.Line
import KernelConfig.Fault.Basic

/-!
The binding plan: which globals stand for which symbol in a script. A symbol whose name contains a
capital letter is bound under its name behind the common lead, and under its bare name unless that
starts with a digit.
-/

set_option autoImplicit false

namespace KernelConfig.Namespace

def keywords : List String :=
  ["and", "break", "do", "else", "elseif", "end", "false", "for", "function", "goto", "if", "in",
    "local", "nil", "not", "or", "repeat", "return", "then", "true", "until", "while"]

/-- Globals that belong to the language or to the prelude. -/
def reserved : List String :=
  ["Symbol", "AK_API_VERSION", "ak", "load_kconfig", "symbol_set", "y", "m", "n", "_G", "_VERSION",
    "_ENV"]

def isCapital (c : Char) : Bool := 'A' ≤ c && c ≤ 'Z'

def isDigit (c : Char) : Bool := '0' ≤ c && c ≤ '9'

def isIdentifier (s : String) : Bool :=
  match s.toList with
  | [] => false
  | c :: rest => Dotconfig.isNameChar c && !isDigit c && rest.all Dotconfig.isNameChar

def isEligible (name : String) : Bool := name.toList.any isCapital

inductive IdentifierFault where
  | malformed (name : String)
  | keyword (name : String)
  | reserved (name : String)
  deriving DecidableEq, Repr

def IdentifierFault.message : IdentifierFault → String
  | malformed s => Text.quoted s ++ " is not a valid Lua identifier"
  | keyword s => Text.quoted s ++ " is a Lua keyword"
  | reserved s => Text.quoted s ++ " collides with a reserved global"

def IdentifierFault.fault (f : IdentifierFault) : Fault := Fault.of .namespaceClash f.message

def validate (name : String) : Except IdentifierFault String :=
  if !isIdentifier name then .error (.malformed name)
  else if name ∈ keywords then .error (.keyword name)
  else if name ∈ reserved then .error (.reserved name)
  else .ok name

/-- The globals that stand for one symbol. -/
structure Binding where
  symbol : String
  long : String
  bare : Option String
  deriving DecidableEq, Repr

def startsWithDigit (name : String) : Bool := (name.toList.head?.map isDigit).getD false

def bind (lead name : String) : Except IdentifierFault Binding :=
  match validate (lead ++ name) with
  | .error f => .error f
  | .ok long =>
    if startsWithDigit name then .ok ⟨name, long, none⟩
    else match validate name with
      | .error f => .error f
      | .ok bare => .ok ⟨name, long, some bare⟩

/-- Adds a name to an increasing list that lacks it. -/
def insertName (name : String) : List String → List String
  | [] => [name]
  | other :: rest =>
    if name < other then name :: other :: rest
    else if name = other then other :: rest
    else other :: insertName name rest

/-- The distinct names in increasing order of their code points. -/
def sortNames (names : List String) : List String := names.foldr insertName []

def bindAll (lead : String) : List String → Except IdentifierFault (List Binding)
  | [] => .ok []
  | name :: rest => match bind lead name with
    | .error f => .error f
    | .ok b => match bindAll lead rest with
      | .error f => .error f
      | .ok bs => .ok (b :: bs)

/-- The plan for a set of names; its failure is about the least offending name. -/
def plan (lead : String) (names : List String) : Except IdentifierFault (List Binding) :=
  bindAll lead ((sortNames names).filter isEligible)

def Binding.identifiers (b : Binding) : List String := b.long :: b.bare.toList

/-- Every global that the plan defines, in increasing order. -/
def identifiers (lead : String) (names : List String) : Except IdentifierFault (List String) :=
  (plan lead names).map fun bs => sortNames (bs.flatMap Binding.identifiers)

end KernelConfig.Namespace
