import KernelConfig.Value.Conversion

/-!
Symbols: named, typed items with a value and the history of its assignments. A value is coerced to
the declared type or refused; a refused value changes nothing.
-/

set_option autoImplicit false

namespace KernelConfig

/-- Where an assignment came from. -/
structure Provenance where
  source : String
  traceback : Option String
  deriving DecidableEq, Repr

structure Symbol where
  name : String
  type : SymbolType
  hex : Bool := false
  range : Option (Int × Int) := none
  value : Option SymbolValue := none
  /-- The accepted assignments since the last reset, latest first. -/
  history : List Provenance := []
  deriving DecidableEq, Repr

inductive Refusal where
  | moduleState
  | notABoolean
  | notATristate
  | notANumber
  | notAText
  | unreadable (fault : ConversionFault)
  | outsideRange (low high : Int)
  deriving BEq, Repr

def Refusal.message : Refusal → String
  | moduleState => "boolean symbols cannot be built as modules"
  | notABoolean => "expected a boolean"
  | notATristate => "expected y, m or n"
  | notANumber => "expected a number"
  | notAText => "expected a string"
  | unreadable f => f.message
  | outsideRange low high =>
    "outside range [" ++ Text.signedDecimal low ++ ", " ++ Text.signedDecimal high ++ "]"

/-- A well-formed value that a symbol of its type does not take. -/
structure Rejection where
  symbol : String
  type : SymbolType
  value : SymbolValue
  refusal : Refusal
  deriving BEq, Repr

def Rejection.message (r : Rejection) : String :=
  "cannot set " ++ r.type.name ++ " symbol " ++ r.symbol ++ " to " ++ Text.quoted r.value.text
    ++ ": " ++ r.refusal.message

def Rejection.fault (r : Rejection) : Fault :=
  (Fault.of .symbolRejected r.message).withSymbol r.symbol

namespace Symbol

/-- The state that a text denotes. -/
def stateOfText (s : String) : Except (SymbolValue × Refusal) Tristate :=
  match Tristate.ofDatum (.text s) with
  | .ok t => .ok t
  | .error f => .error (.auto s, .unreadable f)

def boolOfState (v : SymbolValue) (t : Tristate) : Except (SymbolValue × Refusal) SymbolValue :=
  if t = .module then .error (v, .moduleState) else .ok (.bool (t = .yes))

def inRange (range : Option (Int × Int)) (n : UInt64) : Except (SymbolValue × Refusal) SymbolValue :=
  match range with
  | none => .ok (.number n)
  | some (low, high) =>
    if low ≤ n.toNat && n.toNat ≤ high then .ok (.number n)
    else .error (.number n, .outsideRange low high)

/-- The value as the declared type holds it, or the value that was refused and why. -/
def coerceTo (type : SymbolType) (range : Option (Int × Int)) (v : SymbolValue) :
    Except (SymbolValue × Refusal) SymbolValue :=
  match type with
  | .auto => .ok v
  | .boolean => match v with
    | .bool b => .ok (.bool b)
    | .tristate t => boolOfState v t
    | .auto s => match stateOfText s with
      | .ok t => boolOfState v t
      | .error e => .error e
    | .number _ => .error (v, .notABoolean)
  | .tristate => match v with
    | .tristate t => .ok (.tristate t)
    | .bool b => .ok (.tristate (.ofBool b))
    | .auto s => match stateOfText s with
      | .ok t => .ok (.tristate t)
      | .error e => .error e
    | .number _ => .error (v, .notATristate)
  | .number => match v with
    | .number n => inRange range n
    | .auto s => match numberOfDatum (.text s) with
      | .ok n => inRange range n
      | .error f => .error (v, .unreadable f)
    | _ => .error (v, .notANumber)
  | .string => match v with
    | .auto s => .ok (.auto s)
    | _ => .error (v, .notAText)

def coerce (s : Symbol) (v : SymbolValue) : Except Rejection SymbolValue :=
  match coerceTo s.type s.range v with
  | .ok w => .ok w
  | .error (given, refusal) => .error ⟨s.name, s.type, given, refusal⟩

def record (s : Symbol) (v : SymbolValue) (p : Provenance) : Symbol :=
  { s with value := some v, history := p :: s.history }

def set (s : Symbol) (v : SymbolValue) (p : Provenance) : Except Rejection Symbol :=
  (s.coerce v).map (s.record · p)

/-- Stores a text as it is. -/
def assignRaw (s : Symbol) (text source : String) : Symbol := s.record (.auto text) ⟨source, none⟩

def reset (s : Symbol) : Symbol := { s with value := none, history := [] }

/-- The current value as text; a switch without value reads as `n`. -/
def text (s : Symbol) : String :=
  match s.value with
  | none => if s.type.isSwitch then "n" else ""
  | some (.number n) => if s.hex then Text.hexadecimal n.toNat else Text.decimal n.toNat
  | some v => v.text

def describe (s : Symbol) : String :=
  "Symbol(" ++ Text.quoted s.name ++ ", " ++ s.type.name ++ ", value=" ++ Text.quoted s.text ++ ")"

end Symbol

end KernelConfig
