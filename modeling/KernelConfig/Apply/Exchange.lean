import KernelConfig.Apply.Capability
import KernelConfig.Script.Machine

/-!
What passes between a script and its surroundings: a script's values become data and data become
values. Strings have to be readable as text; what has no counterpart passes by reference.
-/

set_option autoImplicit false

namespace KernelConfig.Script

def Machine.handle (m : Machine) : Value → Handle
  | .table _ => .table
  | .thread id => match (m.thread id).state with
    | .fresh _ => .coroutine
    | _ => .thread
  | .host (.function _) => .hostFunction
  | .host (.failure f) => .failure f.name
  | _ => .function

def Machine.datum (m : Machine) (v : Value) : Except Mishap Datum :=
  match v with
  | .nil => .ok .null
  | .bool b => .ok (.bool b)
  | .int i => .ok (.int i.toInt)
  | .float x => .ok (.float x)
  | .string s => match Text.decodeUtf8 s with
    | .ok s => .ok (.text s)
    | .error f => .error (.undecodable f)
  | v => .ok (.handle (m.handle v))

/-- The data for some values, or what is wrong with the first one that has none. -/
def Machine.data (m : Machine) : List Value → Except Mishap (List Datum)
  | [] => .ok []
  | v :: rest => do return (← m.datum v) :: (← m.data rest)

def Value.ofDatum : Datum → Value
  | .bool b => .bool b
  | .int i => .int (Int64.ofInt i)
  | .float x => .float x
  | .text s => .text s
  | .tristate t => .text t.text
  | _ => .nil

end KernelConfig.Script
