import KernelConfig.Fault.Basic
import KernelConfig.Value.NumberLiteral

/-!
Conversion of a script's data into symbol values. Nothing is guessed or cut off: data that does not
convert exactly is refused.
-/

set_option autoImplicit false

namespace KernelConfig

inductive NumberFault where
  | literal (given : Datum) (fault : LiteralFault)
  | boolean (b : Bool)
  | negative (i : Int)
  | tooLarge (i : Int)
  | fractional (x : Double)
  | negativeFloat (x : Double)
  | imprecise (x : Double)
  | outside (i : Int)
  deriving BEq, Repr

namespace NumberFault

def value : NumberFault → Datum
  | literal d _ => d
  | boolean b => .bool b
  | negative i | tooLarge i | outside i => .int i
  | fractional x | negativeFloat x | imprecise x => .float x

def message (f : NumberFault) : String :=
  let shown := f.value.shown
  match f with
  | literal _ .malformed => shown ++ " is not a number literal"
  | literal _ .negative => shown ++ " is negative"
  | literal _ .tooLarge | tooLarge _ => shown ++ " exceeds the unsigned 64-bit range"
  | boolean _ => "a boolean is not a number"
  | negative _ =>
    "negative value " ++ shown ++ ": Lua cannot represent values >= 2^63, pass them as a string"
  | fractional _ => shown ++ " is not an integer"
  | negativeFloat _ => "negative value " ++ shown
  | imprecise _ => shown ++ " lost precision as a Lua float, pass it as a string"
  | outside _ => shown ++ " is outside the unsigned 64-bit range"

end NumberFault

inductive ConversionFault where
  | tristate (given : Datum)
  | number (fault : NumberFault)
  | notANumber (given : Datum)
  | notAssignable (given : Datum)
  | notABoolean (symbol : String) (given : Datum)
  | notAText (what : String) (given : Datum)
  | notAValue (given : Datum)
  deriving BEq, Repr

namespace ConversionFault

def kind : ConversionFault → FaultKind
  | tristate _ => .tristateParse
  | number _ => .numberRange
  | _ => .valueConversion

def value : ConversionFault → Datum
  | number f => f.value
  | tristate d | notANumber d | notAssignable d | notABoolean _ d | notAText _ d | notAValue d => d

def message : ConversionFault → String
  | tristate d => "Could not parse " ++ d.shown ++ " as tristate (expected y, m or n)"
  | number f => f.message
  | notANumber d => "cannot use " ++ d.kindName ++ " as a number"
  | notAssignable d => "cannot assign a " ++ d.kindName ++ " to a symbol"
  | notABoolean symbol d => "expected a boolean for " ++ symbol ++ ", got " ++ d.kindName
  | notAText what d => what ++ " must be a string, got " ++ d.kindName
  | notAValue d => "not a symbol value: " ++ d.shown

def fault (f : ConversionFault) : Fault := { Fault.of f.kind f.message with value := f.value }

end ConversionFault

/-- A state, or a text that denotes one. -/
def Tristate.ofDatum (d : Datum) : Except ConversionFault Tristate :=
  match d with
  | .tristate t => .ok t
  | .text s => match ofText? s with
    | some t => .ok t
    | none => .error (.tristate d)
  | _ => .error (.tristate d)

/-- A natural number below two to the 64th, or a literal for one. -/
def numberOfDatum (d : Datum) : Except ConversionFault UInt64 :=
  let literal (s : String) : Except ConversionFault UInt64 := match NumberLiteral.parse s with
    | .ok n => .ok n
    | .error f => .error (.number (.literal d f))
  match d with
  | .bool b => .error (.number (.boolean b))
  | .text s => literal s
  | .tristate t => literal t.text
  | .int i =>
    if i < 0 then .error (.number (.negative i))
    else if h : i.toNat < 2 ^ 64 then .ok (UInt64.ofNatLT i.toNat h)
    else .error (.number (.tooLarge i))
  | .float x =>
    match x.toInt? with
    | none => .error (.number (.fractional x))
    | some i =>
      if i < 0 then .error (.number (.negativeFloat x))
      else if i ≥ 2 ^ 53 then .error (.number (.imprecise x))
      else .ok (UInt64.ofNat i.toNat)
  | _ => .error (.notANumber d)

namespace SymbolValue

/-- A number of any size is a value only in the unsigned 64-bit range. -/
def ofInt (i : Int) : Except ConversionFault SymbolValue :=
  if i < 0 then .error (.number (.outside i))
  else if h : i.toNat < 2 ^ 64 then .ok (.number (UInt64.ofNatLT i.toNat h))
  else .error (.number (.outside i))

/-- The value that untyped data stands for, guided by the declared type: a text is a state for a
tristate symbol and an uninterpreted text for any other. -/
def ofDatum (d : Datum) (type : SymbolType) : Except ConversionFault SymbolValue :=
  match d with
  | .bool b => .ok (.bool b)
  | .int _ | .float _ => (numberOfDatum d).map .number
  | .text s => if type = .tristate then (Tristate.ofDatum d).map .tristate else .ok (.auto s)
  | .tristate t => .ok (if type = .tristate then .tristate t else .auto t.text)
  | _ => .error (.notAssignable d)

/-- The text of a value in configuration files. -/
def text : SymbolValue → String
  | auto s => s
  | bool b => if b then "y" else "n"
  | number n => Text.decimal n.toNat
  | tristate t => t.text

end SymbolValue

end KernelConfig
