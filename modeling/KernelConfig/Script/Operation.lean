import KernelConfig.Script.Store

/-!
Operations on values: arithmetic, comparison, concatenation, and access to fields. Where the values
themselves do not know what to do, a metamethod is to be called; where there is none, the operation
is at fault.
-/

set_option autoImplicit false

namespace KernelConfig.Script

/-- The operand that a fault is about. -/
inductive Blame where
  | left
  | right
  | neither
  deriving DecidableEq, Repr

/-- A fault of an operation; what is known of the blamed operand's origin goes between the two texts. -/
structure OperationFault where
  blame : Blame
  before : Bytes
  after : Bytes := []
  deriving DecidableEq, Repr

inductive Outcome where
  | value (v : Value)
  | invoke (f : Value) (args : List Value)
  | fault (f : OperationFault)

def typeFault (s : Store) (blame : Blame) (v : Value) (action : String) : OperationFault :=
  ⟨blame, bytes ("attempt to " ++ action ++ " a ") ++ s.typeNameOf v ++ bytes " value", []⟩

/-! ### Numbers -/

def toFloat? : Value → Option Double
  | .int i => some (Double.ofInt i.toInt)
  | .float x => some x
  | _ => none

/-- A number, or the number that a string denotes. -/
def toNumber? : Value → Option Value
  | .int i => some (.int i)
  | .float x => some (.float x)
  | .string s => number? s
  | _ => none

/-- The integer that a number equals. -/
def numberToInt? : Value → Option Int64
  | .int i => some i
  | .float x => floatToInt? x
  | _ => none

/-- The integer that a number or a string for a number equals. -/
def toInt? (v : Value) : Option Int64 := (toNumber? v).bind numberToInt?

def numberText : Value → Option Bytes
  | .int i => some (bytes (intText i))
  | .float x => some (bytes (floatText x))
  | _ => none

/-- The text of a string or a number. -/
def stringText? : Value → Option Bytes
  | .string s => some s
  | v => numberText v

def shiftLeft (i : Int64) (by_ : Int) : Int64 :=
  let word := i.toUInt64
  if by_ ≤ -64 || 64 ≤ by_ then 0
  else if 0 ≤ by_ then (word <<< UInt64.ofNat by_.toNat).toInt64
  else (word >>> UInt64.ofNat (-by_).toNat).toInt64

def floorDiv (a b : Int64) : Int64 := Int64.ofInt (Int.fdiv a.toInt b.toInt)

def floorMod (a b : Int64) : Int64 := Int64.ofInt (Int.fmod a.toInt b.toInt)

/-- The remainder with the sign of the divisor. -/
def floatMod (a b : Double) : Double :=
  let m := a.remainder b
  let differs := if Double.zero.lt m then b.lt Double.zero else m.lt Double.zero && Double.zero.lt b
  if differs then m.add b else m

def floatIdiv (a b : Double) : Double := (a.div b).floor

inductive ArithmeticFault where
  | notNumbers
  | divideByZero
  | moduloZero
  | notInteger (blame : Blame)

def intArithmetic (op : BinaryOp) (a b : Int64) : Except ArithmeticFault Value :=
  match op with
  | .add => .ok (.int (a + b))
  | .sub => .ok (.int (a - b))
  | .mul => .ok (.int (a * b))
  | .idiv => if b == 0 then .error .divideByZero else .ok (.int (floorDiv a b))
  | .mod => if b == 0 then .error .moduloZero else .ok (.int (floorMod a b))
  | .div => .ok (.float ((Double.ofInt a.toInt).div (Double.ofInt b.toInt)))
  | .pow => .ok (.float ((Double.ofInt a.toInt).pow (Double.ofInt b.toInt)))
  | .band => .ok (.int (a &&& b))
  | .bor => .ok (.int (a ||| b))
  | .bxor => .ok (.int (a ^^^ b))
  | .shl => .ok (.int (shiftLeft a b.toInt))
  | .shr => .ok (.int (shiftLeft a (-b.toInt)))

def floatArithmetic (op : BinaryOp) (a b : Double) : Except ArithmeticFault Value :=
  match op with
  | .add => .ok (.float (a.add b))
  | .sub => .ok (.float (a.sub b))
  | .mul => .ok (.float (a.mul b))
  | .div => .ok (.float (a.div b))
  | .pow => .ok (.float (a.pow b))
  | .idiv => .ok (.float (floatIdiv a b))
  | .mod => .ok (.float (floatMod a b))
  | _ => match floatToInt? a, floatToInt? b with
    | some i, some j => intArithmetic op i j
    | none, _ => .error (.notInteger .left)
    | _, none => .error (.notInteger .right)

def BinaryOp.isBitwise : BinaryOp → Bool
  | band | bor | bxor | shl | shr => true
  | _ => false

/-- Arithmetic on two numbers. -/
def numberArithmetic (op : BinaryOp) (a b : Value) : Except ArithmeticFault Value :=
  match a, b with
  | .int i, .int j => intArithmetic op i j
  | a, b =>
    if op.isBitwise then
      match a, b with
      | .int i, .float y => match floatToInt? y with
        | some j => intArithmetic op i j
        | none => .error (.notInteger .right)
      | .float x, .int j => match floatToInt? x with
        | some i => intArithmetic op i j
        | none => .error (.notInteger .left)
      | .float x, .float y => floatArithmetic op x y
      | _, _ => .error .notNumbers
    else match toFloat? a, toFloat? b with
      | some x, some y => floatArithmetic op x y
      | _, _ => .error .notNumbers

def BinaryOp.name : BinaryOp → String
  | add => "add" | sub => "sub" | mul => "mul" | mod => "mod" | pow => "pow" | div => "div"
  | idiv => "idiv" | band => "band" | bor => "bor" | bxor => "bxor" | shl => "shl" | shr => "shr"

def isNumber : Value → Bool
  | .int _ | .float _ => true
  | _ => false

def isString : Value → Bool
  | .string _ => true
  | _ => false

def ArithmeticFault.fault (s : Store) (op : BinaryOp) (a b : Value) : ArithmeticFault → OperationFault
  | divideByZero => ⟨.neither, bytes "attempt to divide by zero", []⟩
  | moduloZero => ⟨.neither, bytes "attempt to perform 'n%%0'", []⟩
  | notInteger blame => ⟨blame, bytes "number", bytes " has no integer representation"⟩
  | notNumbers =>
    let action := if op.isBitwise then "perform bitwise operation on" else "perform arithmetic on"
    if isNumber a then typeFault s .right b action else typeFault s .left a action

/-- A metamethod of the first operand that has one. -/
def Store.binaryMetamethod (s : Store) (a b : Value) (event : String) : Value :=
  match s.metafield a (bytes event) with
  | .nil => s.metafield b (bytes event)
  | f => f

def Store.binary (s : Store) (op : BinaryOp) (a b : Value) : Outcome :=
  let numbers : Except ArithmeticFault Value :=
    match numberArithmetic op a b with
    | .error .notNumbers =>
      if op.isBitwise && (isString a || isString b) then
        match toNumber? a, toNumber? b with
        | some x, some y => match numberArithmetic op x y with
          | .ok v => .ok v
          | .error _ => .error .notNumbers
        | _, _ => .error .notNumbers
      else .error .notNumbers
    | r => r
  match numbers with
  | .ok v => .value v
  | .error .divideByZero => .fault (ArithmeticFault.divideByZero.fault s op a b)
  | .error .moduloZero => .fault (ArithmeticFault.moduloZero.fault s op a b)
  | .error e => match s.binaryMetamethod a b ("__" ++ op.name) with
    | .nil => .fault (e.fault s op a b)
    | f => .invoke f [a, b]

def Store.unary (s : Store) (op : UnaryOp) (a : Value) : Outcome :=
  match op with
  | .negate => match a with
    | .int i => .value (.int (-i))
    | .float x => .value (.float x.negate)
    | a => match s.metafield a (bytes "__unm") with
      | .nil => .fault (typeFault s .left a "perform arithmetic on")
      | f => .invoke f [a, a]
  | .bitNot =>
    let meta_ : Outcome := match s.metafield a (bytes "__bnot") with
      | .nil =>
        if isNumber a then .fault ⟨.left, bytes "number", bytes " has no integer representation"⟩
        else .fault (typeFault s .left a "perform bitwise operation on")
      | f => .invoke f [a, a]
    match toInt? a with
    | some i => .value (.int (~~~i))
    | none => meta_
  | .length => match a with
    | .string t => .value (.int (Int64.ofNat t.length))
    | .table id => match s.metafield a (bytes "__len") with
      | .nil => .value (.int (Int64.ofNat (s.table id).length))
      | f => .invoke f [a, a]
    | a => match s.metafield a (bytes "__len") with
      | .nil => .fault (typeFault s .left a "get length of")
      | f => .invoke f [a, a]

/-! ### Comparison -/

/-- The order of an integer and a float that is a number. -/
def compareIntFloat (i : Int64) (x : Double) : Ordering :=
  if x.isInfinite then (if x.isNegative then .gt else .lt)
  else
    let floor := x.floorInt
    if i.toInt < floor then .lt
    else if floor < i.toInt then .gt
    else if x.isIntegral then .eq else .lt

def numberLt : Value → Value → Bool
  | .int i, .int j => i < j
  | .float x, .float y => x.lt y
  | .int i, .float y => !y.isNan && compareIntFloat i y == .lt
  | .float x, .int j => !x.isNan && compareIntFloat j x == .gt
  | _, _ => false

def numberLe : Value → Value → Bool
  | .int i, .int j => i ≤ j
  | .float x, .float y => x.le y
  | .int i, .float y => !y.isNan && compareIntFloat i y != .gt
  | .float x, .int j => !x.isNan && compareIntFloat j x != .lt
  | _, _ => false

def rawEqual : Value → Value → Bool
  | .int i, .int j => i == j
  | .float x, .float y => x.eq y
  | .int i, .float y => y.toInt? == some i.toInt
  | .float x, .int j => x.toInt? == some j.toInt
  | .string a, .string b => a == b
  | a, b => a == b

def isTable : Value → Bool
  | .table _ => true
  | _ => false

def Store.equal (s : Store) (a b : Value) : Outcome :=
  if rawEqual a b then .value (.bool true)
  else if isTable a && isTable b then
    match s.binaryMetamethod a b "__eq" with
    | .nil => .value (.bool false)
    | f => .invoke f [a, b]
  else .value (.bool false)

def orderFault (s : Store) (a b : Value) : OperationFault :=
  let ta := s.typeNameOf a
  let tb := s.typeNameOf b
  if ta == tb then ⟨.neither, bytes "attempt to compare two " ++ ta ++ bytes " values", []⟩
  else ⟨.neither, bytes "attempt to compare " ++ ta ++ bytes " with " ++ tb, []⟩

def Store.less (s : Store) (orEqual : Bool) (a b : Value) : Outcome :=
  if isNumber a && isNumber b then .value (.bool (if orEqual then numberLe a b else numberLt a b))
  else match a, b with
    | .string x, .string y =>
      let o := compareBytes x y
      .value (.bool (if orEqual then o != .gt else o == .lt))
    | a, b => match s.binaryMetamethod a b (if orEqual then "__le" else "__lt") with
      | .nil => .fault (orderFault s a b)
      | f => .invoke f [a, b]

/-- A comparison; for the two that swap their operands the fault names them swapped. -/
def Store.compare (s : Store) (op : Comparison) (a b : Value) : Outcome :=
  match op with
  | .eq | .ne => s.equal a b
  | .lt => s.less false a b
  | .le => s.less true a b
  | .gt => s.less false b a
  | .ge => s.less true b a

def Comparison.event : Comparison → String
  | eq | ne => "eq"
  | lt | gt => "lt"
  | le | ge => "le"

/-! ### Fields -/

def indexEvent : Bytes := bytes "__index"

def newindexEvent : Bytes := bytes "__newindex"

/-- A field of a value, through at most two thousand tables that stand in for one another. -/
def Store.indexThrough (s : Store) : (fuel : Nat) → (v k : Value) → Outcome
  | 0, _, _ => .fault ⟨.neither, bytes "'__index' chain too long; possibly a loop", []⟩
  | fuel + 1, v, k =>
    match v with
    | .table id =>
      let t := s.table id
      match t.get k with
      | .nil =>
        match t.metatable with
        | none => .value .nil
        | some m => match (s.table m).getKey (.string indexEvent) with
          | .nil => .value .nil
          | f => if f.isFunction then .invoke f [v, k] else indexThrough s fuel f k
      | found => .value found
    | .host object => .invoke (.host (.function "__index")) [.host object, k]
    | v => match s.metafield v indexEvent with
      | .nil => .fault (typeFault s .left v "index")
      | f => if f.isFunction then .invoke f [v, k] else indexThrough s fuel f k

def Store.index (s : Store) (v k : Value) : Outcome := s.indexThrough 2000 v k

inductive Assigned where
  | stored (s : Store)
  | invoke (s : Store) (f : Value) (args : List Value)
  | fault (s : Store) (f : OperationFault)

def keyFault (k : Value) : Option OperationFault :=
  match k with
  | .nil => some ⟨.neither, bytes "table index is nil", []⟩
  | .float x => if x.isNan then some ⟨.neither, bytes "table index is NaN", []⟩ else none
  | _ => none

def Store.assignRaw (s : Store) (id : Nat) (k v : Value) : Assigned :=
  match keyFault k with
  | some f => .fault s f
  | none => .stored (s.rawSet id k v)

/-- Assigns a field of a value, through at most two thousand tables that stand in for one another. -/
def Store.assignThrough (s : Store) : (fuel : Nat) → (t k v : Value) → Assigned
  | 0, _, _, _ => .fault s ⟨.neither, bytes "'__newindex' chain too long; possibly a loop", []⟩
  | fuel + 1, t, k, v =>
    match t with
    | .table id =>
      match (s.table id).metatable with
      | none => s.assignRaw id k v
      | some m =>
        if !(s.rawGet id k).isNil then s.assignRaw id k v
        else match (s.table m).getKey (.string newindexEvent) with
          | .nil => s.assignRaw id k v
          | f => if f.isFunction then .invoke s f [t, k, v] else assignThrough s fuel f k v
    | .host object => .invoke s (.host (.function "__newindex")) [.host object, k, v]
    | t => match s.metafield t newindexEvent with
      | .nil => .fault s (typeFault s .left t "index")
      | f => if f.isFunction then .invoke s f [t, k, v] else assignThrough s fuel f k v

def Store.assign (s : Store) (t k v : Value) : Assigned := s.assignThrough 2000 t k v

/-! ### Concatenation and calls -/

def Store.concat (s : Store) (a b : Value) : Outcome :=
  match stringText? a, stringText? b with
  | some x, some y => .value (.string (x ++ y))
  | x, _ => match s.binaryMetamethod a b "__concat" with
    | .nil =>
      if x.isSome then .fault (typeFault s .right b "concatenate")
      else .fault (typeFault s .left a "concatenate")
    | f => .invoke f [a, b]

/-- What is called in place of a value that is no function, with the value as first argument. -/
def Store.callee (s : Store) : (fuel : Nat) → Value → List Value → Option (Value × List Value × Nat)
  | 0, _, _ => none
  | fuel + 1, f, args =>
    match f with
    | .closure _ | .native _ | .host (.function _) => some (f, args, 0)
    | v => match s.metafield v (bytes "__call") with
      | .nil => none
      | g => (callee s fuel g (v :: args)).map fun (f, as, n) => (f, as, n + 1)

end KernelConfig.Script
