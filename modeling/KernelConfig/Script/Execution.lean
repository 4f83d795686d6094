import KernelConfig.Script.Activation

/-!
Execution of instructions. A step either leads to the next one or hands over to the machine: to call
a function, to return, or to fail.
-/

set_option autoImplicit false

namespace KernelConfig.Script

inductive Step where
  | next (s : Store) (a : Activation)
  /-- A call; `isNested` marks those that an operation makes rather than the script. -/
  | call (s : Store) (a : Activation) (f : Value) (args : List Value) (origin : Option Origin)
      (isNested : Bool)
  | tailCall (s : Store) (a : Activation) (f : Value) (args : List Value) (origin : Option Origin)
  | ret (s : Store) (a : Activation) (values : List Value)
  /-- A fault whose message lacks its position. -/
  | fail (s : Store) (a : Activation) (message : Bytes)

/-- What messages add about where a value came from. -/
def originText : Option Origin → Bytes
  | none => []
  | some o => bytes (" (" ++ o.kind.text ++ " '") ++ o.name ++ bytes "')"

def OperationFault.text (f : OperationFault) (left right : Option Origin) : Bytes :=
  match f.blame with
  | .left => f.before ++ originText left ++ f.after
  | .right => f.before ++ originText right ++ f.after
  | .neither => f.before ++ f.after

namespace Step

def metamethod (name : String) : Option Origin := some ⟨.metamethod, bytes name⟩

/-- Goes on with the value of an operation, or calls the metamethod. -/
def ofOutcome (s : Store) (a : Activation) (o : Outcome) (left right : Option Origin) (event : String)
    (await : Await) : Step :=
  match o with
  | .value v => .next s (a.push v)
  | .invoke f args => .call s { a with await } f args (metamethod event) true
  | .fault f => .fail s a (f.text left right)

def ofAssigned (a : Activation) (r : Assigned) (origin : Option Origin) : Step :=
  match r with
  | .stored s => .next s a
  | .invoke s f args => .call s { a with await := .nothing } f args (metamethod "newindex") true
  | .fault s f => .fail s a (f.text origin none)

/-- Joins a right operand with the operands to its left, last one first. -/
def concat (s : Store) (a : Activation) (right : Value) (rightOrigin : Option Origin) :
    List (Value × Option Origin) → Step
  | [] => .next s (a.push right)
  | (left, origin) :: rest =>
    match s.concat left right with
    | .value v => concat s a v none rest
    | .invoke f args => .call s { a with await := .concat rest } f args (metamethod "concat") true
    | .fault f => .fail s a (f.text origin rightOrigin)

def pushAll (a : Activation) (want : Want) (vs : List Value) : Activation :=
  match want with
  | .exactly 0 => a
  | .exactly 1 => a.push (first vs)
  | .exactly n => { a with stack := (adjust n vs).reverse ++ a.stack }
  | .all => { a with spread := vs }

/-- The values that a list of any length takes from the operands and from those put aside. -/
def takeList (a : Activation) (n : Nat) (spread : Bool) : List Value × Activation :=
  let (vs, stack) := Activation.takeOperands n a.stack []
  if spread then (vs ++ a.spread, { a with stack, spread := [] }) else (vs, { a with stack })

/-- How a loop over numbers begins; its limit is a count of rounds for integers. -/
inductive Loop where
  | skip
  | run (start limit step : Value)
  | fault (message : Bytes)

def loopFault (s : Store) (what : String) (v : Value) : Loop :=
  .fault (bytes ("bad 'for' " ++ what ++ " (number expected, got ") ++ s.typeNameOf v ++ bytes ")")

def stepIsZero : Loop := .fault (bytes "'for' step is zero")

/-- The last integer that a loop may reach, if the limit is a number; inside, `none` if there is none. -/
def integerLimit (step : Int64) (limit : Value) : Option (Option Int64) :=
  match toNumber? limit with
  | some (.int i) => some (some i)
  | some (.float x) =>
    let whole := if step < 0 then x.ceil else x.floor
    match floatToInt? whole with
    | some i => some (some i)
    | none =>
      if Double.zero.lt x then some (if step < 0 then none else some Int64.maxValue)
      else some (if 0 < step then none else some Int64.minValue)
  | _ => none

def prepareLoop (s : Store) (start limit step : Value) : Loop :=
  match start, step with
  | .int i, .int d =>
    if d == 0 then stepIsZero
    else match integerLimit d limit with
      | none => loopFault s "limit" limit
      | some none => .skip
      | some (some l) =>
        if (if 0 < d then l < i else i < l) then .skip
        else
          let rounds := if 0 < d then (l.toUInt64 - i.toUInt64) / d.toUInt64
            else (i.toUInt64 - l.toUInt64) / ((-(d + 1)).toUInt64 + 1)
          .run (.int i) (.int rounds.toInt64) (.int d)
  | start, step =>
    match (toNumber? limit).bind toFloat?, (toNumber? step).bind toFloat?,
        (toNumber? start).bind toFloat? with
    | none, _, _ => loopFault s "limit" limit
    | _, none, _ => loopFault s "step" step
    | _, _, none => loopFault s "initial value" start
    | some l, some d, some i =>
      if d.eq Double.zero then stepIsZero
      else if (if Double.zero.lt d then l.lt i else i.lt l) then .skip
      else .run (.float i) (.float l) (.float d)

/-- The next round of a loop: its value and what is left of the rounds. -/
def nextRound (current limit step : Value) : Option (Value × Value) :=
  match current, limit, step with
  | .int i, .int rounds, .int d =>
    if rounds == 0 then none else some (.int (i + d), .int (rounds - 1))
  | .float x, .float l, .float d =>
    let y := x.add d
    if (if Double.zero.lt d then y.le l else l.le y) then some (.float y, .float l) else none
  | _, _, _ => none

/-- Closes the last of the variables that are to be closed, and does the instruction again after that. -/
def closeLast (s : Store) (a : Activation) (slot : Nat) (rest : List Nat) : Step :=
  let v := a.getSlot s slot
  .call s { a with pc := a.pc - 1, toClose := rest, await := .nothing }
    (s.metafield v (bytes "__close")) [v, .nil] (metamethod "close") true

/-- One instruction; the place has already been moved on to the next one. -/
def instruction (s : Store) (a : Activation) (i : Instr) : Step :=
  match i with
  | .push v => .next s (a.push v)
  | .pop => .next s { a with stack := a.stack.tail }
  | .getSlot i => .next s (a.push (a.getSlot s i))
  | .setSlot i =>
    let v := a.stack.headD .nil
    let a := { a with stack := a.stack.tail }
    match a.slots.getD i (.value .nil) with
    | .value _ => .next s (a.newSlot i v)
    | .shared cell => .next (s.setCell cell v) a
  | .newSlot i =>
    let v := a.stack.headD .nil
    .next s ({ a with stack := a.stack.tail }.newSlot i v)
  | .getUpvalue i => .next s (a.push (s.cell (a.upvalues.getD i 0)))
  | .setUpvalue i =>
    .next (s.setCell (a.upvalues.getD i 0) (a.stack.headD .nil)) { a with stack := a.stack.tail }
  | .index origin =>
    match a.stack with
    | k :: t :: stack => ofOutcome s { a with stack } (s.index t k) origin none "index" .first
    | _ => .ret s a []
  | .field name origin =>
    match a.stack with
    | t :: stack => ofOutcome s { a with stack } (s.index t (.string name)) origin none "index" .first
    | _ => .ret s a []
  | .setIndex origin =>
    match a.stack with
    | v :: k :: t :: stack => let a := { a with stack }; ofAssigned a (s.assign t k v) origin
    | _ => .ret s a []
  | .setIndexUnder origin =>
    match a.stack with
    | k :: t :: v :: stack => let a := { a with stack }; ofAssigned a (s.assign t k v) origin
    | _ => .ret s a []
  | .checkUndefined name =>
    if (a.stack.headD .nil).isNil then .next s { a with stack := a.stack.tail }
    else .fail s a (bytes "global '" ++ name ++ bytes "' already defined")
  | .newTable =>
    let (s, id) := s.addTable {}
    .next s (a.push (.table id))
  | .setItem i =>
    match a.stack with
    | v :: .table id :: stack =>
      .next (s.rawSet id (.int (Int64.ofNat i)) v) { a with stack := .table id :: stack }
    | _ => .ret s a []
  | .setItems start =>
    match a.stack with
    | .table id :: _ =>
      let s := a.spread.zipIdx.foldl
        (fun s e => s.rawSet id (.int (Int64.ofNat (start + e.2))) e.1) s
      .next s { a with spread := [] }
    | _ => .ret s a []
  | .setField =>
    match a.stack with
    | v :: k :: .table id :: stack =>
      let a := { a with stack := .table id :: stack }
      ofAssigned a (s.assignRaw id k v) none
    | _ => .ret s a []
  | .method name origin =>
    match a.stack with
    | object :: stack =>
      match s.index object (.string name) with
      | .value f => .next s { a with stack := object :: f :: stack }
      | .invoke f args =>
        .call s { a with stack, await := .method object } f args (metamethod "index") true
      | .fault f => .fail s a (f.text origin none)
    | _ => .ret s a []
  | .call n spread want origin =>
    let (args, a) := takeList a n spread
    match a.stack with
    | f :: stack => .call s { a with stack, await := .results want } f args origin false
    | _ => .ret s a []
  | .tailCall n spread origin =>
    let (args, a) := takeList a n spread
    match a.stack with
    | f :: stack => .tailCall s { a with stack, await := .returned } f args origin
    | _ => .ret s a []
  | .ret n spread =>
    match a.toClose with
    | slot :: rest => closeLast s a slot rest
    | [] => let (vs, a) := takeList a n spread; .ret s a vs
  | .varargs want => .next s (pushAll a want a.varargs)
  | .packVarargs =>
    let t : Table := { items := a.varargs.toArray }
    let (s, id) := s.addTable (t.setText "n" (.int (Int64.ofNat a.varargs.length)))
    .next s (a.push (.table id))
  | .closure index =>
    let (s, a, upvalues) := Activation.capture s a (a.chunk.getD index default).captures #[]
    let (s, id) := s.addClosure { chunk := a.chunk, index, upvalues }
    .next s (a.push (.closure id))
  | .unary op origin =>
    match a.stack with
    | v :: stack =>
      let event := match op with
        | .negate => "unm"
        | .bitNot => "bnot"
        | .length => "len"
      ofOutcome s { a with stack } (s.unary op v) origin none event .first
    | _ => .ret s a []
  | .binary op left right =>
    match a.stack with
    | y :: x :: stack => ofOutcome s { a with stack } (s.binary op x y) left right op.name .first
    | _ => .ret s a []
  | .concat origins =>
    let (operands, stack) := Activation.takeOperands origins.length a.stack []
    match (operands.zip origins).reverse with
    | (v, origin) :: rest => concat s { a with stack } v origin rest
    | [] => .ret s a []
  | .compare op =>
    match a.stack with
    | y :: x :: stack =>
      let a := { a with stack }
      let negate := op == .ne
      match s.compare op x y with
      | .value v => .next s (a.push (.bool (v.isTruthy != negate)))
      | .invoke f args =>
        .call s { a with await := .truth negate } f args (metamethod op.event) true
      | .fault f => .fail s a (f.text none none)
    | _ => .ret s a []
  | .not =>
    let v := a.stack.headD .nil
    .next s ({ a with stack := a.stack.tail }.push (.bool !v.isTruthy))
  | .label _ => .next s a
  | .jump pc => .next s { a with pc }
  | .jumpUnless pc =>
    if (a.stack.headD .nil).isTruthy then .next s { a with stack := a.stack.tail }
    else .next s { a with stack := a.stack.tail, pc }
  | .jumpIf pc =>
    if (a.stack.headD .nil).isTruthy then .next s { a with stack := a.stack.tail, pc }
    else .next s { a with stack := a.stack.tail }
  | .jumpUnlessKeep pc =>
    if (a.stack.headD .nil).isTruthy then .next s { a with stack := a.stack.tail }
    else .next s { a with pc }
  | .jumpIfKeep pc =>
    if (a.stack.headD .nil).isTruthy then .next s { a with pc }
    else .next s { a with stack := a.stack.tail }
  | .forPrepare slot exit =>
    match a.stack with
    | step :: limit :: start :: stack =>
      let a := { a with stack }
      match prepareLoop s start limit step with
      | .skip => .next s { a with pc := exit }
      | .run start limit step => .next s (a.newSlots slot [start, limit, step, start])
      | .fault message => .fail s a message
    | _ => .ret s a []
  | .forStep slot body =>
    let step := a.getSlot s (slot + 2)
    match nextRound (a.getSlot s slot) (a.getSlot s (slot + 1)) step with
    | none => .next s a
    | some (v, limit) => .next s { a.newSlots slot [v, limit, step, v] with pc := body }
  | .iterate slot count =>
    .call s { a with await := .iterate slot count } (a.getSlot s slot)
      [a.getSlot s (slot + 1), a.getSlot s (slot + 2)] (some ⟨.forIterator, bytes "for iterator"⟩)
      false
  | .iterateTest slot exit =>
    match a.getSlot s (slot + 4) with
    | .nil => .next s { a with pc := exit }
    | v => .next s (a.newSlot (slot + 2) v)
  | .markClose slot name =>
    let v := a.getSlot s slot
    if !v.isTruthy then .next s a
    else if (s.metafield v (bytes "__close")).isNil then
      .fail s a (bytes "variable '" ++ name ++ bytes "' got a non-closable value")
    else .next s { a with toClose := slot :: a.toClose }
  | .closeFrom slot =>
    match a.toClose with
    | last :: rest => if slot ≤ last then closeLast s a last rest else .next s a
    | [] => .next s a

end Step

/-- Executes instructions until the machine is needed or `fuel` of them are done; what is left of the fuel. -/
def execute : (fuel : Nat) → Store → Activation → Nat × Step
  | 0, s, a => (0, .next s a)
  | fuel + 1, s, a =>
    match a.function.ops[a.pc]? with
    | none => (fuel, .ret s a [])
    | some op => match Step.instruction s { a with pc := a.pc + 1 } op.instr with
      | .next s a => execute fuel s a
      | step => (fuel, step)

/-- Takes up the results of a call. -/
def Activation.resume (a : Activation) (s : Store) (vs : List Value) : Step :=
  match a.await with
  | .results want => .next s (Step.pushAll a want vs)
  | .first => .next s (a.push (first vs))
  | .truth negate => .next s (a.push (.bool ((first vs).isTruthy != negate)))
  | .nothing => .next s a
  | .method object => .next s { a with stack := object :: first vs :: a.stack }
  | .concat rest => Step.concat s a (first vs) none rest
  | .iterate slot count => .next s (a.newSlots (slot + 4) (adjust count vs))
  | .returned => .ret s a vs

end KernelConfig.Script
