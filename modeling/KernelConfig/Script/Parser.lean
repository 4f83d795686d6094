import KernelConfig.Script.Operand

/-!
From tokens to code, in one pass. Every function reads as much as belongs to its construct and
gives back the instructions for it; `fuel` bounds the depth of the recursion and is computed from
the number of tokens.
-/

set_option autoImplicit false

namespace KernelConfig.Script

structure ParserState where
  lexemes : List Lexeme
  fault : Option SourceFault
  /-- The line of the last token that was passed. -/
  lastLine : Nat := 1
  /-- How deep expressions and statements are nested. -/
  level : Nat := 0
  functions : List FunctionScope := []
  finished : Array Function := #[]
  source : Bytes

abbrev Parse (α : Type) := StateT ParserState (Except SourceFault) α

namespace Parse

/-! ### Tokens -/

def current : Parse Lexeme := do return (← get).lexemes.headD ⟨.eof, 0, []⟩

def token : Parse Token := do return (← current).token

def line : Parse Nat := do return (← current).line

def lastLine : Parse Nat := do return (← get).lastLine

def failWith {α : Type} (f : SourceFault) : Parse α := fun _ => .error f

/-- A fault at the current token. -/
def syntaxFault {α : Type} (message : Bytes) : Parse α := do
  let l ← current
  failWith ⟨l.line, message, l.token.shown l.text⟩

/-- A fault about a name rather than a token. -/
def meaningFault {α : Type} (message : Bytes) : Parse α := do
  failWith ⟨(← current).line, message, []⟩

def advance : Parse Unit := fun s =>
  match s.lexemes with
  | l :: next :: rest => .ok ((), { s with lexemes := next :: rest, lastLine := l.line })
  | l :: [] => match s.fault with
    | some f => .error f
    | none => .ok ((), { s with lastLine := l.line })
  | [] => match s.fault with
    | some f => .error f
    | none => .ok ((), s)

/-- The token after the current one. -/
def lookahead : Parse Token := fun s =>
  match s.lexemes with
  | _ :: next :: _ => .ok (next.token, s)
  | _ => match s.fault with
    | some f => .error f
    | none => .ok (.eof, s)

def punct (c : Char) : Token := .single c.toNat.toUInt8

def isAt (t : Token) : Parse Bool := do return (← token) == t

/-- Passes the token if it is the given one. -/
def accept (t : Token) : Parse Bool := do
  if (← token) == t then
    advance
    return true
  else return false

def expectedFault {α : Type} (t : Token) : Parse α := syntaxFault (t.expected ++ bytes " expected")

def expect (t : Token) : Parse Unit := do
  if (← token) == t then advance else expectedFault t

/-- Expects the token that closes what `opening` began. -/
def expectClosing (t opening : Token) (openLine : Nat) : Parse Unit := do
  if (← token) == t then advance
  else if openLine = (← line) then expectedFault t
  else syntaxFault (t.expected ++ bytes " expected (to close " ++ opening.expected
    ++ bytes (" at line " ++ Text.decimal openLine ++ ")"))

def expectName : Parse Bytes := do
  match ← token with
  | .name s => do advance; return s
  | _ => expectedFault (.name [])

/-- Runs a parser one level deeper. -/
def nested {α : Type} (p : Parse α) : Parse α := do
  let s ← get
  if 199 ≤ s.level + 1 then failWith ⟨0, bytes "C stack overflow", []⟩
  else do
    set { s with level := s.level + 1 }
    let a ← p
    modify fun s => { s with level := s.level - 1 }
    return a

/-! ### Scopes -/

def inFunction : Parse FunctionScope := do return (← get).functions.headD default

def updateFunction (f : FunctionScope → FunctionScope) : Parse Unit :=
  modify fun s => match s.functions with
    | g :: rest => { s with functions := f g :: rest }
    | [] => s

def newLabel : Parse Nat := do
  let n := (← inFunction).nextLabel
  updateFunction fun f => { f with nextLabel := n + 1 }
  return n

def newSlots (n : Nat) : Parse Nat := do
  let first := (← inFunction).nextSlot
  updateFunction fun f => { f with nextSlot := first + n, slots := max f.slots (first + n) }
  return first

def declare (d : Declared) : Parse Unit := updateFunction fun f => { f with declared := d :: f.declared }

def countLocals : List Declared → Nat
  | [] => 0
  | .slot .. :: rest => countLocals rest + 1
  | _ :: rest => countLocals rest

/-- Refuses more than two hundred local variables, `more` of them not yet in force. -/
def checkLocals (more : Nat) : Parse Unit := do
  let f ← inFunction
  if 200 < countLocals f.declared + more then
    let place := if f.lineDefined = 0 then "main function"
      else "function at line " ++ Text.decimal f.lineDefined
    syntaxFault (bytes ("too many local variables (limit is 200) in " ++ place))

def declareLocal (name : Bytes) (kind : VariableKind) : Parse Nat := do
  let slot ← newSlots 1
  declare (.slot name kind slot)
  return slot

def enterBlock (breakLabel : Option Nat) : Parse Unit :=
  updateFunction fun f =>
    { f with blocks := { depth := f.depth, firstSlot := f.nextSlot, breakLabel } :: f.blocks }

/-- The first slot, among the declarations after the first `depth`, whose value is to be closed. -/
def firstToClose (f : FunctionScope) (depth : Nat) : Option Nat :=
  (f.declared.take (f.depth - depth)).foldl (fun r d => match d with
    | .slot _ .toClose i => some i
    | _ => r) none

def closing (f : FunctionScope) (depth line : Nat) : Code :=
  match firstToClose f depth with
  | some slot => [⟨.closeFrom slot, line⟩]
  | none => []

/-- Joins the gotos of a block to its labels; the others are left for the block around it. -/
def joinGotos (f : FunctionScope) (b : Block) : List Goto → Parse (List (Nat × Nat) × List Goto)
  | [] => return ([], [])
  | g :: rest => do
    let (aliases, pending) ← joinGotos f b rest
    match b.labels.find? (·.name == g.name) with
    | some l =>
      if g.depth < l.depth then
        let name := ((f.declared.reverse[g.depth]?).map Declared.name).getD []
        meaningFault (bytes "<goto " ++ g.name ++ bytes ("> at line " ++ Text.decimal g.line
          ++ " jumps into the scope of '") ++ name ++ bytes "'")
      else return ((g.number, l.number) :: aliases, pending)
    | none => return (aliases, { g with depth := min g.depth b.depth } :: pending)

/-- Ends a block: its declarations are no longer in force. -/
def leaveBlock : Parse Code := do
  let f ← inFunction
  let last ← lastLine
  match f.blocks with
  | [] => return []
  | b :: outer =>
    let (aliases, pending) ← joinGotos f b b.gotos
    let code := closing f b.depth last
    let outer ← match outer, pending with
      | o :: more, gs => pure ({ o with gotos := o.gotos ++ gs } :: more)
      | [], [] => pure []
      | [], g :: _ => meaningFault (bytes "no visible label '" ++ g.name
          ++ bytes ("' for <goto> at line " ++ Text.decimal g.line))
    updateFunction fun f => { f with
      declared := f.declared.drop (f.depth - b.depth)
      nextSlot := b.firstSlot
      blocks := outer
      aliases := aliases ++ f.aliases }
    return code

def readOnlyFault {α : Type} (name : Bytes) : Parse α :=
  meaningFault (bytes "attempt to assign to const variable '" ++ name ++ bytes "'")

def checkAssignable (e : Operand) : Parse Unit := do
  match e.readOnlyName with
  | some name => readOnlyFault name
  | none => return ()

def findMeaning (name : Bytes) : Parse Meaning := do
  let s ← get
  let (m, functions) := meaning name .free s.functions
  set { s with functions }
  return m

def envName : Bytes := bytes "_ENV"

/-- A field of the environment, under a fixed name. -/
def globalNamed (name : Bytes) (readOnly : Bool) : Parse Operand := do
  let line ← lastLine
  let key : Code := [⟨.push (.string name), line⟩]
  let origin : Option Origin := some ⟨.global, name⟩
  let ro := if readOnly then some name else none
  match ← findMeaning envName with
  | .slot i kind =>
    let env := Operand.slot i envName kind line
    return .indexed env.code key (some name) env.origin origin ro line
  | .upvalue i kind =>
    let env := Operand.upvalue i envName kind line
    return .indexed env.code key (some name) env.origin origin ro line
  | .global _ =>
    meaningFault (bytes "_ENV is global when accessing variable '" ++ name ++ bytes "'")

def namedVariable (name : Bytes) : Parse Operand := do
  let line ← lastLine
  match ← findMeaning name with
  | .slot i kind => return .slot i name kind line
  | .upvalue i kind => return .upvalue i name kind line
  | .global .free => globalNamed name false
  | .global (.declared readOnly) => globalNamed name readOnly
  | .global .undeclared => meaningFault (bytes "variable '" ++ name ++ bytes "' not declared")

/-! ### Functions -/

def openFunction (lineDefined : Nat) (varargs : Bool) (upvalues : List UpvalueEntry) : Parse Unit :=
  modify fun s => { s with
    functions := { index := s.finished.size, lineDefined, varargs, upvalues } :: s.functions
    finished := s.finished.push default }

/-- Ends a function: its code is complete. -/
def closeFunction (lastLine : Nat) (code : Code) : Parse Nat := do
  let s ← get
  match s.functions with
  | [] => return 0
  | f :: outer =>
    let function : Function := {
      source := s.source
      lineDefined := f.lineDefined
      lastLine
      parameters := f.parameters
      varargs := f.varargs
      slots := f.slots
      captures := f.upvalues.map (·.capture)
      upvalueNames := f.upvalues.map (·.name)
      ops := assemble f.nextLabel f.aliases (code ++ [⟨.ret 0 false, lastLine⟩]) }
    set { s with functions := outer, finished := s.finished.setIfInBounds f.index function }
    return f.index

/-- Pops values into consecutive slots, the last one from the top. -/
def storeSlots (line first : Nat) : (n : Nat) → Code
  | 0 => []
  | n + 1 => ⟨.newSlot (first + n), line⟩ :: storeSlots line first n

/-! ### Operators -/

def unaryPriority : Nat := 12

/-- What an operator between two expressions makes of them. -/
inductive Infix where
  | arithmetic (op : BinaryOp)
  | concat
  | compare (op : Comparison)
  | and
  | or

/-- The operator that a token is, with its priorities on the left and on the right. -/
def infixOf : Token → Option (Infix × Nat × Nat)
  | .single 43 => some (.arithmetic .add, 10, 10)
  | .single 45 => some (.arithmetic .sub, 10, 10)
  | .single 42 => some (.arithmetic .mul, 11, 11)
  | .single 37 => some (.arithmetic .mod, 11, 11)
  | .single 94 => some (.arithmetic .pow, 14, 13)
  | .single 47 => some (.arithmetic .div, 11, 11)
  | .mark .idiv => some (.arithmetic .idiv, 11, 11)
  | .single 38 => some (.arithmetic .band, 6, 6)
  | .single 124 => some (.arithmetic .bor, 4, 4)
  | .single 126 => some (.arithmetic .bxor, 5, 5)
  | .mark .shl => some (.arithmetic .shl, 7, 7)
  | .mark .shr => some (.arithmetic .shr, 7, 7)
  | .mark .concat => some (.concat, 9, 8)
  | .mark .ne => some (.compare .ne, 3, 3)
  | .mark .eq => some (.compare .eq, 3, 3)
  | .single 60 => some (.compare .lt, 3, 3)
  | .mark .le => some (.compare .le, 3, 3)
  | .single 62 => some (.compare .gt, 3, 3)
  | .mark .ge => some (.compare .ge, 3, 3)
  | .keyword .and => some (.and, 2, 2)
  | .keyword .or => some (.or, 1, 1)
  | _ => none

def joinOperands (op : Infix) (left right : Operand) (line : Nat) : Parse Operand := do
  let last ← lastLine
  match op with
  | .arithmetic op =>
    return .value (left.code ++ right.code ++ [⟨.binary op left.origin right.origin, line⟩]) none
  | .concat =>
    let line := match right with
      | .concat _ inner => inner
      | _ => line
    return .concat ((left.code, left.origin) :: right.concatParts) line
  | .compare op => return .value (left.code ++ right.code ++ [⟨.compare op, last⟩]) none
  | .and =>
    let l ← newLabel
    return .value (left.code ++ [⟨.jumpUnlessKeep l, line⟩] ++ right.code ++ [⟨.label l, last⟩]) none
  | .or =>
    let l ← newLabel
    return .value (left.code ++ [⟨.jumpIfKeep l, line⟩] ++ right.code ++ [⟨.label l, last⟩]) none

def applyUnary (t : Token) (e : Operand) (line : Nat) : Operand :=
  match t with
  | .keyword .not => .value (e.code ++ [⟨.not, line⟩]) none
  | .single 126 => .value (e.code ++ [⟨.unary .bitNot e.origin, line⟩]) none
  | .single 35 => .value (e.code ++ [⟨.unary .length e.origin, line⟩]) none
  | _ => .value (e.code ++ [⟨.unary .negate e.origin, line⟩]) none

def isUnary : Token → Bool
  | .keyword .not | .single 126 | .single 35 | .single 45 => true
  | _ => false

/-- Whether a token ends a block; `until` does so for all but the body of a loop that it closes. -/
def endsBlock (withUntil : Bool) : Token → Bool
  | .keyword .else | .keyword .elseif | .keyword .end | .eof => true
  | .keyword .until => withUntil
  | _ => false

def outOfFuel {α : Type} : Parse α := failWith ⟨0, bytes "chunk has too many syntax levels", []⟩

/-- An attribute in angle brackets. -/
def attributeKind (default : VariableKind) : Parse VariableKind := do
  if ← accept (punct '<') then
    let name ← expectName
    expect (punct '>')
    if name == bytes "const" then return .constant
    else if name == bytes "close" then return .toClose
    else meaningFault (bytes "unknown attribute '" ++ name ++ bytes "'")
  else return default

def globalAttribute (default : VariableKind) : Parse VariableKind := do
  match ← attributeKind default with
  | .toClose => meaningFault (bytes "global variables cannot be to-be-closed")
  | kind => return kind

/-- The code that assigns the value on the stack to a variable. -/
def storeTop (e : Operand) (line : Nat) : Code :=
  match e with
  | .slot i .. => [⟨.setSlot i, line⟩]
  | .upvalue i .. => [⟨.setUpvalue i, line⟩]
  | .indexed table key _ origin _ _ _ => table ++ key ++ [⟨.setIndexUnder origin, line⟩]
  | _ => []

/-- The code that assigns one value, which `value` leaves on the stack. -/
def storeValue (e : Operand) (value : Code) (line : Nat) : Code :=
  match e with
  | .indexed table key _ origin _ _ _ => table ++ key ++ value ++ [⟨.setIndex origin, line⟩]
  | e => value ++ storeTop e line

/-- Copies of the tables and keys of assigned fields, made before any value is computed. -/
def settleTarget (e : Operand) : Parse (Code × Operand) := do
  match e with
  | .indexed table key name tableOrigin origin readOnly line =>
    let slot ← newSlots 2
    let code := table ++ [⟨.newSlot slot, line⟩] ++ key ++ [⟨.newSlot (slot + 1), line⟩]
    return (code, .indexed [⟨.getSlot slot, line⟩] [⟨.getSlot (slot + 1), line⟩] name tableOrigin
      origin readOnly line)
  | e => return ([], e)

def settleTargets : List Operand → Parse (Code × List Operand)
  | [] => return ([], [])
  | e :: rest => do
    let (c, e) ← settleTarget e
    let (cs, es) ← settleTargets rest
    return (c ++ cs, e :: es)

/-- The label of the loop around the current place, with the depth of its declarations. -/
def enclosingLoop : List Block → Option (Nat × Nat)
  | [] => none
  | b :: rest => match b.breakLabel with
    | some l => some (l, b.depth)
    | none => enclosingLoop rest

def breakStatement : Parse Code := do
  let f ← inFunction
  let line ← line
  match enclosingLoop f.blocks with
  | none => syntaxFault (bytes "break outside loop")
  | some (l, depth) =>
    advance
    return closing f depth line ++ [⟨.jump l, line⟩]

def gotoStatement : Parse Code := do
  let line ← line
  advance
  let name ← expectName
  let number ← newLabel
  updateFunction fun f => match f.blocks with
    | b :: outer =>
      { f with blocks := { b with gotos := b.gotos ++ [⟨name, line, number, f.depth⟩] } :: outer }
    | [] => f
  return [⟨.jump number, line⟩]

/-- Adds a label; one at the end of its block counts as outside the scope of the block's declarations. -/
def addLabel (name : Bytes) (line : Nat) (isLast : Bool) : Parse Code := do
  let f ← inFunction
  match (f.blocks.flatMap (·.labels)).find? (·.name == name) with
  | some l => meaningFault (bytes "label '" ++ name
      ++ bytes ("' already defined on line " ++ Text.decimal l.line))
  | none =>
    let number ← newLabel
    updateFunction fun f => match f.blocks with
      | b :: outer =>
        let depth := if isLast then b.depth else f.depth
        { f with blocks := { b with labels := ⟨name, line, number, depth⟩ :: b.labels } :: outer }
      | [] => f
    return [⟨.label number, line⟩]

/-- The name of the variables that a loop keeps for itself. -/
def forState : Bytes := bytes "(for state)"

/-- The value that a token stands for by itself, if it is a constant other than a string. -/
def constantOf : Token → Option Value
  | .int i => some (.int i)
  | .float x => some (.float x)
  | .keyword .nil => some .nil
  | .keyword .true => some (.bool true)
  | .keyword .false => some (.bool false)
  | _ => none

/-! ### The grammar -/

mutual

def expression : (fuel : Nat) → Parse Operand
  | 0 => outOfFuel
  | fuel + 1 => subexpression fuel 0
termination_by structural fuel => fuel

/-- An expression of operators that bind tighter than `limit`. -/
def subexpression : (fuel limit : Nat) → Parse Operand
  | 0, _ => outOfFuel
  | fuel + 1, limit => nested do
    let l ← current
    let left ←
      if isUnary l.token then do
        advance
        let e ← subexpression fuel unaryPriority
        pure (applyUnary l.token e l.line)
      else simpleExpression fuel
    operators fuel limit left
termination_by structural fuel => fuel

def operators : (fuel limit : Nat) → Operand → Parse Operand
  | 0, _, _ => outOfFuel
  | fuel + 1, limit, left => do
    let l ← current
    match infixOf l.token with
    | none => return left
    | some (op, leftPriority, rightPriority) =>
      if leftPriority ≤ limit then return left
      else
        advance
        let right ← subexpression fuel rightPriority
        operators fuel limit (← joinOperands op left right l.line)
termination_by structural fuel => fuel

def simpleExpression : (fuel : Nat) → Parse Operand
  | 0 => outOfFuel
  | fuel + 1 => do
    let l ← current
    match constantOf l.token with
    | some v => do
      advance
      return .value [⟨.push v, l.line⟩] none
    | none =>
      match l.token with
      | .string s => do
        advance
        return .value [⟨.push (.string s), l.line⟩] (some ⟨.constant, s⟩)
      | .mark .dots =>
        if (← inFunction).varargs then do
          advance
          return .varargs l.line
        else syntaxFault (bytes "cannot use '...' outside a vararg function")
      | .single 123 => tableConstructor fuel
      | .keyword .function => do
        advance
        functionBody fuel false l.line
      | _ => suffixed fuel
termination_by structural fuel => fuel

def primary : (fuel : Nat) → Parse Operand
  | 0 => outOfFuel
  | fuel + 1 => do
    let l ← current
    match l.token with
    | .name s => do
      advance
      namedVariable s
    | .single 40 => do
      advance
      let e ← expression fuel
      expectClosing (punct ')') (punct '(') l.line
      return e.parenthesized
    | _ => syntaxFault (bytes "unexpected symbol")
termination_by structural fuel => fuel

def suffixed : (fuel : Nat) → Parse Operand
  | 0 => outOfFuel
  | fuel + 1 => do suffixes fuel (← primary fuel)
termination_by structural fuel => fuel

def suffixes : (fuel : Nat) → Operand → Parse Operand
  | 0, _ => outOfFuel
  | fuel + 1, e => do
    match ← token with
    | .single 46 => do
      advance
      let line ← line
      let name ← expectName
      suffixes fuel (e.field name line)
    | .single 91 => do
      let key ← bracketKey fuel
      suffixes fuel (e.element key (← lastLine))
    | .single 58 => do
      advance
      let line ← line
      let name ← expectName
      let code := e.code ++ [⟨.method name e.origin, line⟩]
      suffixes fuel (← callArguments fuel code 1 (some ⟨.method, name⟩))
    | .single 40 | .string _ | .single 123 =>
      suffixes fuel (← callArguments fuel e.code 0 e.origin)
    | _ => return e
termination_by structural fuel => fuel

def bracketKey : (fuel : Nat) → Parse Operand
  | 0 => outOfFuel
  | fuel + 1 => do
    advance
    let key ← expression fuel
    expect (punct ']')
    return key
termination_by structural fuel => fuel

/-- The arguments of a call, after the code for the function and `given` arguments. -/
def callArguments : (fuel : Nat) → Code → (given : Nat) → Option Origin → Parse Operand
  | 0, _, _, _ => outOfFuel
  | fuel + 1, code, given, origin => do
    let l ← current
    match l.token with
    | .string s => do
      advance
      return .call (code ++ [⟨.push (.string s), l.line⟩]) (given + 1) false origin l.line
    | .single 123 => do
      let e ← tableConstructor fuel
      return .call (code ++ e.code) (given + 1) false origin l.line
    | .single 40 => do
      advance
      let es ← if ← isAt (punct ')') then pure [] else expressions fuel
      expectClosing (punct ')') (punct '(') l.line
      let (c, n, spread) := Operand.listCode es
      return .call (code ++ c) (given + n) spread origin l.line
    | _ => syntaxFault (bytes "function arguments expected")
termination_by structural fuel => fuel

def expressions : (fuel : Nat) → Parse (List Operand)
  | 0 => outOfFuel
  | fuel + 1 => do
    let e ← expression fuel
    if ← accept (punct ',') then return e :: (← expressions fuel) else return [e]
termination_by structural fuel => fuel

def tableConstructor : (fuel : Nat) → Parse Operand
  | 0 => outOfFuel
  | fuel + 1 => do
    let l ← current
    expect (punct '\x7b')
    let code ← tableFields fuel 1
    expectClosing (punct '\x7d') (punct '\x7b') l.line
    return .value (⟨.newTable, l.line⟩ :: code) none
termination_by structural fuel => fuel

/-- The fields of a table constructor; the next one without a key gets the key `next`. -/
def tableFields : (fuel next : Nat) → Parse Code
  | 0, _ => outOfFuel
  | fuel + 1, next => do
    let l ← current
    let separator : Parse Bool := do
      if ← accept (punct ',') then return true else accept (punct ';')
    let keyed (key : Operand) : Parse Code := do
      expect (punct '=')
      let e ← expression fuel
      let code := key.code ++ e.code ++ [⟨.setField, ← lastLine⟩]
      if ← separator then return code ++ (← tableFields fuel next) else return code
    let plain : Parse Code := do
      let e ← expression fuel
      if ← separator then
        let more ← tableFields fuel (next + 1)
        if e.isMulti && (← isAt (punct '\x7d')) && more.isEmpty then
          return e.codeFor .all ++ [⟨.setItems next, ← lastLine⟩]
        else return e.code ++ [⟨.setItem next, l.line⟩] ++ more
      else if e.isMulti then return e.codeFor .all ++ [⟨.setItems next, ← lastLine⟩]
      else return e.code ++ [⟨.setItem next, l.line⟩]
    match l.token with
    | .single 125 => return []
    | .name s =>
      if (← lookahead) == punct '=' then do
        advance
        keyed (.value [⟨.push (.string s), l.line⟩] none)
      else plain
    | .single 91 => do
      let key ← bracketKey fuel
      keyed key
    | _ => plain
termination_by structural fuel => fuel

/-- A function from its parameters to its `end`; the value is the closure. -/
def functionBody : (fuel : Nat) → (isMethod : Bool) → (line : Nat) → Parse Operand
  | 0, _, _ => outOfFuel
  | fuel + 1, isMethod, line => do
    openFunction line false []
    enterBlock none
    expect (punct '(')
    if isMethod then let _ ← declareLocal (bytes "self") .regular
    let packed ← if ← isAt (punct ')') then pure [] else parameterList fuel
    expect (punct ')')
    updateFunction fun f => { f with parameters := f.nextSlot - (if packed.isEmpty then 0 else 1) }
    let body ← statements fuel
    let last ← Parse.line
    expectClosing (.keyword .end) (.keyword .function) line
    let tail ← leaveBlock
    let index ← closeFunction last (packed ++ body ++ tail)
    return .value [⟨.closure index, last⟩] none
termination_by structural fuel => fuel

/-- The parameters of a function, and the code that collects the extra arguments under a name. -/
def parameterList : (fuel : Nat) → Parse Code
  | 0 => outOfFuel
  | fuel + 1 => do
    match ← token with
    | .name s => do
      advance
      let _ ← declareLocal s .regular
      checkLocals 0
      if ← accept (punct ',') then parameterList fuel else return []
    | .mark .dots => do
      advance
      updateFunction fun f => { f with varargs := true }
      match ← token with
      | .name s => do
        let line ← line
        advance
        let slot ← declareLocal s .regular
        return [⟨.packVarargs, line⟩, ⟨.newSlot slot, line⟩]
      | _ => return []
    | _ => syntaxFault (bytes "<name> or '...' expected")
termination_by structural fuel => fuel

def block : (fuel : Nat) → Parse Code
  | 0 => outOfFuel
  | fuel + 1 => do
    enterBlock none
    let code ← statements fuel
    return code ++ (← leaveBlock)
termination_by structural fuel => fuel

def statements : (fuel : Nat) → Parse Code
  | 0 => outOfFuel
  | fuel + 1 => do
    match ← token with
    | .keyword .return => returnStatement fuel
    | t =>
      if endsBlock true t then return []
      else
        let code ← nested (statement fuel)
        return code ++ (← statements fuel)
termination_by structural fuel => fuel

def returnStatement : (fuel : Nat) → Parse Code
  | 0 => outOfFuel
  | fuel + 1 => do
    advance
    let t ← token
    let es ← if endsBlock true t || t == punct ';' then pure [] else expressions fuel
    let last ← lastLine
    let code ← match es with
      | [.call c n spread origin line] => do
        if (firstToClose (← inFunction) 0).isSome then
          pure (c ++ [⟨.call n spread .all origin, line⟩, ⟨.ret 0 true, last⟩])
        else pure (c ++ [⟨.tailCall n spread origin, line⟩])
      | es =>
        let (c, n, spread) := Operand.listCode es
        pure (c ++ [⟨.ret n spread, last⟩])
    let _ ← accept (punct ';')
    return code
termination_by structural fuel => fuel

def statement : (fuel : Nat) → Parse Code
  | 0 => outOfFuel
  | fuel + 1 => do
    let l ← current
    match l.token with
    | .single 59 => do
      advance
      return []
    | .keyword .if => do
      let done ← newLabel
      let code ← conditional fuel done
      expectClosing (.keyword .end) (.keyword .if) l.line
      return code ++ [⟨.label done, ← lastLine⟩]
    | .keyword .while => whileStatement fuel
    | .keyword .do => do
      advance
      let code ← block fuel
      expectClosing (.keyword .end) (.keyword .do) l.line
      return code
    | .keyword .for => forStatement fuel
    | .keyword .repeat => repeatStatement fuel
    | .keyword .function => functionStatement fuel
    | .keyword .local => do
      advance
      if ← accept (.keyword .function) then localFunction fuel else localStatement fuel
    | .mark .dbcolon => do
      advance
      let name ← expectName
      labelStatement fuel name l.line
    | .keyword .break => breakStatement
    | .keyword .goto => gotoStatement
    | .name s =>
      if s == bytes "global" then
        match ← lookahead with
        | .name _ | .single 42 | .single 60 => do
          advance
          globalStatement fuel
        | .keyword .function => do
          advance
          advance
          globalFunction fuel l.line
        | _ => expressionStatement fuel
      else expressionStatement fuel
    | _ => expressionStatement fuel
termination_by structural fuel => fuel

/-- A condition with its block, and what follows it in the same statement. -/
def conditional : (fuel done : Nat) → Parse Code
  | 0, _ => outOfFuel
  | fuel + 1, done => do
    advance
    let condition ← expression fuel
    expect (.keyword .then)
    let line ← lastLine
    let otherwise ← newLabel
    let body ← block fuel
    let code := condition.code ++ [⟨.jumpUnless otherwise, line⟩] ++ body
    match ← token with
    | .keyword .elseif => do
      let rest ← conditional fuel done
      return code ++ [⟨.jump done, line⟩, ⟨.label otherwise, line⟩] ++ rest
    | .keyword .else => do
      advance
      let rest ← block fuel
      return code ++ [⟨.jump done, line⟩, ⟨.label otherwise, line⟩] ++ rest
    | _ => return code ++ [⟨.label otherwise, line⟩]
termination_by structural fuel => fuel

def whileStatement : (fuel : Nat) → Parse Code
  | 0 => outOfFuel
  | fuel + 1 => do
    let l ← current
    advance
    let top ← newLabel
    let exit ← newLabel
    let condition ← expression fuel
    enterBlock (some exit)
    expect (.keyword .do)
    let body ← block fuel
    expectClosing (.keyword .end) (.keyword .while) l.line
    let tail ← leaveBlock
    return [⟨.label top, l.line⟩] ++ condition.code ++ [⟨.jumpUnless exit, l.line⟩] ++ body ++ tail
      ++ [⟨.jump top, l.line⟩, ⟨.label exit, l.line⟩]
termination_by structural fuel => fuel

def repeatStatement : (fuel : Nat) → Parse Code
  | 0 => outOfFuel
  | fuel + 1 => do
    let l ← current
    advance
    let top ← newLabel
    let exit ← newLabel
    enterBlock (some exit)
    enterBlock none
    let body ← statements fuel
    expectClosing (.keyword .until) (.keyword .repeat) l.line
    let condition ← expression fuel
    let tail ← leaveBlock
    let outer ← leaveBlock
    return [⟨.label top, l.line⟩] ++ body ++ condition.code ++ tail
      ++ [⟨.jumpUnless top, ← lastLine⟩] ++ outer ++ [⟨.label exit, l.line⟩]
termination_by structural fuel => fuel

def forStatement : (fuel : Nat) → Parse Code
  | 0 => outOfFuel
  | fuel + 1 => do
    let l ← current
    advance
    let exit ← newLabel
    enterBlock (some exit)
    let name ← expectName
    let code ← match ← token with
      | .single 61 => numericFor fuel name l.line exit
      | .single 44 | .keyword .in => genericFor fuel name l.line exit
      | _ => syntaxFault (bytes "'=' or 'in' expected")
    expectClosing (.keyword .end) (.keyword .for) l.line
    let tail ← leaveBlock
    return code ++ [⟨.label exit, l.line⟩] ++ tail
termination_by structural fuel => fuel

def numericFor : (fuel : Nat) → Bytes → (line exit : Nat) → Parse Code
  | 0, _, _, _ => outOfFuel
  | fuel + 1, name, line, exit => do
    expect (punct '=')
    let first ← expression fuel
    expect (punct ',')
    let limit ← expression fuel
    let step ← if ← accept (punct ',') then expression fuel
      else pure (.value [⟨.push (.int 1), line⟩] none)
    let base ← newSlots 3
    expect (.keyword .do)
    let prepared ← lastLine
    let top ← newLabel
    enterBlock none
    let _ ← declareLocal name .constant
    let body ← statements fuel
    let tail ← leaveBlock
    return first.code ++ limit.code ++ step.code
      ++ [⟨.forPrepare base exit, prepared⟩, ⟨.label top, line⟩] ++ body ++ tail
      ++ [⟨.forStep base top, line⟩]
termination_by structural fuel => fuel

def genericFor : (fuel : Nat) → Bytes → (line exit : Nat) → Parse Code
  | 0, _, _, _ => outOfFuel
  | fuel + 1, name, line, exit => do
    let names ← moreNames fuel
    expect (.keyword .in)
    let line' ← Parse.line
    let es ← expressions fuel
    let base ← newSlots 4
    let code := Operand.adjusted (← lastLine) 4 es ++ storeSlots line' base 4
      ++ [⟨.markClose (base + 3) forState, line'⟩]
    declare (.slot forState .toClose (base + 3))
    expect (.keyword .do)
    let top ← newLabel
    enterBlock none
    let _ ← declareLocal name .constant
    for n in names do
      let _ ← declareLocal n .regular
    let body ← statements fuel
    let tail ← leaveBlock
    return code ++ [⟨.label top, line⟩, ⟨.iterate base (names.length + 1), line⟩,
      ⟨.iterateTest base exit, line⟩] ++ body ++ tail ++ [⟨.jump top, line⟩]
termination_by structural fuel => fuel

def moreNames : (fuel : Nat) → Parse (List Bytes)
  | 0 => outOfFuel
  | fuel + 1 => do
    if ← accept (punct ',') then
      let n ← expectName
      return n :: (← moreNames fuel)
    else return []
termination_by structural fuel => fuel

def functionStatement : (fuel : Nat) → Parse Code
  | 0 => outOfFuel
  | fuel + 1 => do
    let l ← current
    advance
    let name ← expectName
    let (target, isMethod) ← functionName fuel (← namedVariable name)
    let body ← functionBody fuel isMethod l.line
    checkAssignable target
    return storeValue target body.code l.line
termination_by structural fuel => fuel

def functionName : (fuel : Nat) → Operand → Parse (Operand × Bool)
  | 0, _ => outOfFuel
  | fuel + 1, e => do
    match ← token with
    | .single 46 => do
      advance
      let line ← line
      let name ← expectName
      functionName fuel (e.field name line)
    | .single 58 => do
      advance
      let line ← line
      let name ← expectName
      return (e.field name line, true)
    | _ => return (e, false)
termination_by structural fuel => fuel

def localFunction : (fuel : Nat) → Parse Code
  | 0 => outOfFuel
  | fuel + 1 => do
    let name ← expectName
    checkLocals 1
    let slot ← declareLocal name .regular
    let line ← line
    let body ← functionBody fuel false line
    return [⟨.push .nil, line⟩, ⟨.newSlot slot, line⟩] ++ body.code ++ [⟨.setSlot slot, line⟩]
termination_by structural fuel => fuel

/-- The names of a local declaration with their attributes. -/
def localNames : (fuel : Nat) → VariableKind → (hasClose : Bool) → (count : Nat) →
    Parse (List (Bytes × VariableKind))
  | 0, _, _, _ => outOfFuel
  | fuel + 1, default, hasClose, count => do
    let name ← expectName
    let kind ← attributeKind default
    checkLocals (count + 1)
    if kind = .toClose && hasClose then
      meaningFault (bytes "multiple to-be-closed variables in local list")
    else if ← accept (punct ',') then
      return (name, kind) :: (← localNames fuel default (hasClose || kind = .toClose) (count + 1))
    else return [(name, kind)]
termination_by structural fuel => fuel

def localStatement : (fuel : Nat) → Parse Code
  | 0 => outOfFuel
  | fuel + 1 => do
    let default ← attributeKind .regular
    let names ← localNames fuel default false 0
    let es ← if ← accept (punct '=') then expressions fuel else pure []
    let line ← lastLine
    let code := Operand.adjusted line names.length es
    let first ← newSlots 0
    for (n, k) in names do
      let _ ← declareLocal n k
    let marks := (names.zipIdx.filter fun e => e.1.2 = .toClose).map fun e =>
      (⟨.markClose (first + e.2) e.1.1, line⟩ : Op)
    return code ++ storeSlots line first names.length ++ marks
termination_by structural fuel => fuel

def globalNames : (fuel : Nat) → VariableKind → Parse (List (Bytes × VariableKind))
  | 0, _ => outOfFuel
  | fuel + 1, default => do
    let name ← expectName
    let kind ← globalAttribute default
    if ← accept (punct ',') then return (name, kind) :: (← globalNames fuel default)
    else return [(name, kind)]
termination_by structural fuel => fuel

def globalStatement : (fuel : Nat) → Parse Code
  | 0 => outOfFuel
  | fuel + 1 => do
    let default ← globalAttribute .regular
    if ← accept (punct '*') then
      declare (.globals default.isReadOnly)
      return []
    else
      let names ← globalNames fuel default
      let code ← if ← accept (punct '=') then do
          let targets ← names.mapM fun (n, _) => globalNamed n false
          let line ← Parse.line
          let es ← expressions fuel
          let last ← lastLine
          let stores := (names.zip targets).reverse.flatMap fun ((n, _), t) =>
            t.code ++ [⟨.checkUndefined n, line⟩] ++ storeTop t last
          pure (Operand.adjusted last names.length es ++ stores)
        else pure []
      for (n, k) in names do
        declare (.global n k.isReadOnly)
      return code
termination_by structural fuel => fuel

def globalFunction : (fuel : Nat) → (line : Nat) → Parse Code
  | 0, _ => outOfFuel
  | fuel + 1, line => do
    let name ← expectName
    declare (.global name false)
    let target ← globalNamed name false
    let body ← functionBody fuel false (← Parse.line)
    return target.code ++ [⟨.checkUndefined name, line⟩] ++ storeValue target body.code line
termination_by structural fuel => fuel

def labelStatement : (fuel : Nat) → Bytes → (line : Nat) → Parse Code
  | 0, _, _ => outOfFuel
  | fuel + 1, name, line => do
    expect (.mark .dbcolon)
    let rest ← emptyStatements fuel
    let code ← addLabel name line (endsBlock false (← token))
    return rest ++ code
termination_by structural fuel => fuel

/-- The statements without effect that follow a label: semicolons and other labels. -/
def emptyStatements : (fuel : Nat) → Parse Code
  | 0 => outOfFuel
  | fuel + 1 => do
    let t ← token
    if t == punct ';' || t == .mark .dbcolon then
      let code ← nested (statement fuel)
      return code ++ (← emptyStatements fuel)
    else return []
termination_by structural fuel => fuel

def expressionStatement : (fuel : Nat) → Parse Code
  | 0 => outOfFuel
  | fuel + 1 => do
    let e ← suffixed fuel
    let t ← token
    if t == punct '=' || t == punct ',' then assignment fuel [] e
    else match e with
      | .call .. => return e.codeFor (.exactly 0)
      | _ => syntaxFault (bytes "syntax error")
termination_by structural fuel => fuel

/-- An assignment; `targets` are those read before `e`, last one first. -/
def assignment : (fuel : Nat) → List Operand → Operand → Parse Code
  | 0, _, _ => outOfFuel
  | fuel + 1, targets, e => do
    if !e.isAssignable then syntaxFault (bytes "syntax error")
    checkAssignable e
    let targets := e :: targets
    if ← accept (punct ',') then
      let next ← suffixed fuel
      nested (assignment fuel targets next)
    else
      expect (punct '=')
      let es ← expressions fuel
      let last ← lastLine
      match targets with
      | [target] => return storeValue target (Operand.adjusted last 1 es) last
      | targets => do
        let (settled, targets') ← settleTargets targets.reverse
        return settled ++ Operand.adjusted last targets'.length es
          ++ targets'.reverse.flatMap (storeTop · last)
termination_by structural fuel => fuel

end

def mainFunction (fuel : Nat) : Parse Unit := do
  openFunction 0 true [⟨envName, .regular, .slot 0⟩]
  enterBlock none
  let body ← statements fuel
  if !(← isAt .eof) then expectedFault .eof
  let tail ← leaveBlock
  let _ ← closeFunction (← line) (body ++ tail)

end Parse

/-- The functions of a source text, the main one first. -/
def compile (source text : Bytes) : Except SourceFault Chunk :=
  let lexed := lex text
  let fuel := 30 * lexed.lexemes.length + 100
  match lexed.lexemes, lexed.fault with
  | [], some f => .error f
  | lexemes, fault =>
    let start : ParserState := { lexemes, fault, source }
    match (Parse.mainFunction fuel).run start with
    | .ok (_, s) => .ok s.finished
    | .error f => .error f

end KernelConfig.Script
