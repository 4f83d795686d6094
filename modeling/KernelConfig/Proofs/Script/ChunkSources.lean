import KernelConfig.Script.Parser

/-!
The name of a chunk: every function that a source text is compiled to bears it.
-/

set_option autoImplicit false

namespace KernelConfig.Script

/-- A state of the parser: of the functions whose text has been read to its end, all have the source as
their own; those with these indices are still open. -/
structure Sourced (name : Bytes) (indices : List Nat) (s : ParserState) : Prop where
  source : s.source = name
  functions : s.functions.map (·.index) = indices
  finished : ∀ i f, s.finished[i]? = some f → f.source = name ∨ i ∈ indices

namespace Parse

/-- A parser that closes the functions that it opens. A parser is made of others, so whether it does so is
found by the instances for these. -/
class Keeps {α : Type} (p : Parse α) : Prop where
  sourced : ∀ {name indices s a s'}, Sourced name indices s → p s = .ok (a, s') → Sourced name indices s'

/-- A parser that closes one function more. -/
class Closes {α : Type} (p : Parse α) : Prop where
  sourced : ∀ {name i indices s a s'}, Sourced name (i :: indices) s → p s = .ok (a, s') →
    Sourced name indices s'

section Rules

variable {α β : Type} {p q : Parse α} {f : α → Parse β}

theorem bind_eq_ok {s s' : ParserState} {b : β} (h : (p >>= f) s = .ok (b, s')) :
    ∃ a t, p s = .ok (a, t) ∧ f a t = .ok (b, s') := by
  have hbind : (p >>= f) s = (p s).bind fun r => f r.1 r.2 := rfl
  rw [hbind] at h
  cases hp : p s with
  | error e =>
    rw [hp] at h
    cases h
  | ok r =>
    rw [hp] at h
    exact ⟨r.1, r.2, rfl, h⟩

theorem Keeps.bind (hp : Keeps p) (hf : ∀ a, Keeps (f a)) : Keeps (p >>= f) where
  sourced hs h := by
    obtain ⟨a, t, hpa, hfa⟩ := bind_eq_ok h
    exact (hf a).sourced (hp.sourced hs hpa) hfa

instance [hp : Keeps p] [hf : ∀ a, Keeps (f a)] : Keeps (p >>= f) := hp.bind hf

theorem Closes.after (hp : Keeps p) (hf : ∀ a, Closes (f a)) : Closes (p >>= f) where
  sourced hs h := by
    obtain ⟨a, t, hpa, hfa⟩ := bind_eq_ok h
    exact (hf a).sourced (hp.sourced hs hpa) hfa

theorem Closes.before (hp : Closes p) (hf : ∀ a, Keeps (f a)) : Closes (p >>= f) where
  sourced hs h := by
    obtain ⟨a, t, hpa, hfa⟩ := bind_eq_ok h
    exact (hf a).sourced (hp.sourced hs hpa) hfa

instance [hp : Keeps p] [hf : ∀ a, Closes (f a)] : Closes (p >>= f) := .after hp hf

instance [hp : Closes p] [hf : ∀ a, Keeps (f a)] : Closes (p >>= f) := .before hp hf

instance (a : α) : Keeps (pure a) where
  sourced hs h := by
    cases h
    exact hs

instance (c : Prop) [Decidable c] [Keeps p] [Keeps q] : Keeps (if c then p else q) := by
  split <;> assumption

instance (c : Prop) [Decidable c] [Closes p] [Closes q] : Closes (if c then p else q) := by
  split <;> assumption

instance : Keeps (get : Parse ParserState) where
  sourced hs h := by
    cases h
    exact hs

instance (fault : SourceFault) : Keeps (failWith fault : Parse α) where
  sourced _ h := by cases h

theorem keeps_modify {f : ParserState → ParserState}
    (h : ∀ {name indices s}, Sourced name indices s → Sourced name indices (f s)) :
    Keeps (modify f : Parse Unit) where
  sourced hs hf := by
    cases hf
    exact h hs

instance {γ : Type} (l : List γ) (b : β) (f : γ → β → Parse (ForInStep β)) [hf : ∀ c b, Keeps (f c b)] :
    Keeps (forIn l b f) := by
  induction l generalizing b with
  | nil =>
    rw [List.forIn_nil]
    infer_instance
  | cons c rest ih =>
    rw [List.forIn_cons]
    refine .bind inferInstance fun r => ?_
    cases r <;> infer_instance

instance {γ : Type} (l : List γ) (f : γ → Parse β) [hf : ∀ c, Keeps (f c)] : Keeps (l.mapM f) := by
  induction l with
  | nil =>
    rw [List.mapM_nil]
    infer_instance
  | cons c rest ih =>
    rw [List.mapM_cons]
    infer_instance

end Rules

/-! ### Tokens -/

instance : Keeps current := by
  unfold current
  infer_instance

instance : Keeps token := by
  unfold token
  infer_instance

instance : Keeps line := by
  unfold line
  infer_instance

instance : Keeps lastLine := by
  unfold lastLine
  infer_instance

instance {α : Type} (message : Bytes) : Keeps (syntaxFault message : Parse α) := by
  unfold syntaxFault
  infer_instance

instance {α : Type} (message : Bytes) : Keeps (meaningFault message : Parse α) := by
  unfold meaningFault
  infer_instance

instance : Keeps advance where
  sourced hs h := by
    unfold advance at h
    split at h
    · cases h
      exact ⟨hs.source, hs.functions, hs.finished⟩
    all_goals
      split at h
      · cases h
      · cases h
        exact ⟨hs.source, hs.functions, hs.finished⟩

instance : Keeps lookahead where
  sourced hs h := by
    unfold lookahead at h
    split at h
    · cases h
      exact hs
    · split at h <;> cases h
      exact hs

instance (t : Token) : Keeps (isAt t) := by
  unfold isAt
  infer_instance

instance (t : Token) : Keeps (accept t) := by
  unfold accept
  infer_instance

instance {α : Type} (t : Token) : Keeps (expectedFault t : Parse α) := by
  unfold expectedFault
  infer_instance

instance (t : Token) : Keeps (expect t) := by
  unfold expect
  infer_instance

instance (t opening : Token) (openLine : Nat) : Keeps (expectClosing t opening openLine) := by
  unfold expectClosing
  infer_instance

instance : Keeps expectName := by
  unfold expectName
  refine .bind inferInstance fun t => ?_
  split <;> infer_instance

instance {α : Type} (p : Parse α) [Keeps p] : Keeps (nested p) where
  sourced {_ _ s _ _} hs h := by
    unfold nested at h
    obtain ⟨_, _, hget, h⟩ := bind_eq_ok h
    cases hget
    split at h
    · cases h
    · obtain ⟨_, _, hset, h⟩ := bind_eq_ok h
      cases hset
      obtain ⟨a, t, hp, h⟩ := bind_eq_ok h
      have ht := Keeps.sourced (s := { s with level := s.level + 1 })
        ⟨hs.source, hs.functions, hs.finished⟩ hp
      cases h
      exact ⟨ht.source, ht.functions, ht.finished⟩

/-! ### Scopes -/

instance : Keeps inFunction := by
  unfold inFunction
  infer_instance

theorem keeps_updateFunction {f : FunctionScope → FunctionScope} (h : ∀ g, (f g).index = g.index) :
    Keeps (updateFunction f) := by
  refine keeps_modify fun hs => ?_
  split
  · next hfunctions =>
    refine ⟨hs.source, ?_, hs.finished⟩
    rw [← hs.functions, hfunctions, List.map_cons, List.map_cons, h]
  · exact hs

instance : Keeps newLabel := by
  unfold newLabel
  exact .bind inferInstance fun _ => .bind (keeps_updateFunction fun _ => rfl) inferInstance

instance (n : Nat) : Keeps (newSlots n) := by
  unfold newSlots
  exact .bind inferInstance fun _ => .bind (keeps_updateFunction fun _ => rfl) inferInstance

instance (d : Declared) : Keeps (declare d) := keeps_updateFunction fun _ => rfl

instance (more : Nat) : Keeps (checkLocals more) := by
  unfold checkLocals
  infer_instance

instance (name : Bytes) (kind : VariableKind) : Keeps (declareLocal name kind) := by
  unfold declareLocal
  infer_instance

instance (breakLabel : Option Nat) : Keeps (enterBlock breakLabel) := keeps_updateFunction fun _ => rfl

instance (f : FunctionScope) (b : Block) (gotos : List Goto) : Keeps (joinGotos f b gotos) := by
  induction gotos with
  | nil => exact inferInstanceAs (Keeps (pure _))
  | cons g rest ih =>
    unfold joinGotos
    refine .bind ih fun ⟨_, _⟩ => ?_
    dsimp only
    split <;> infer_instance

instance : Keeps leaveBlock := by
  unfold leaveBlock
  refine .bind inferInstance fun f => .bind inferInstance fun last => ?_
  split
  · infer_instance
  · refine .bind inferInstance fun ⟨_, _⟩ => ?_
    dsimp only
    have hleave : ∀ (update : FunctionScope → FunctionScope) (code : Code),
        (∀ g, (update g).index = g.index) → Keeps (do updateFunction update; return code) :=
      fun _ _ h => .bind (keeps_updateFunction h) inferInstance
    split <;> exact .bind inferInstance fun _ => hleave _ _ fun _ => rfl

instance {α : Type} (name : Bytes) : Keeps (readOnlyFault name : Parse α) := by
  unfold readOnlyFault
  infer_instance

instance (e : Operand) : Keeps (checkAssignable e) := by
  unfold checkAssignable
  split <;> infer_instance

theorem meaning_indices (name : Bytes) (status : GlobalStatus) (fs : List FunctionScope) :
    (meaning name status fs).2.map (·.index) = fs.map (·.index) := by
  induction fs generalizing status with
  | nil => rfl
  | cons f outer ih =>
    unfold meaning
    split
    · rfl
    · rfl
    · next inner _ =>
      dsimp only
      split
      · rfl
      · have hin := ih inner
        split <;> simp [hin]

instance (name : Bytes) : Keeps (findMeaning name) where
  sourced hs h := by
    cases h
    exact ⟨hs.source, (meaning_indices _ _ _).trans hs.functions, hs.finished⟩

instance (name : Bytes) (readOnly : Bool) : Keeps (globalNamed name readOnly) := by
  unfold globalNamed
  refine .bind inferInstance fun _ => .bind inferInstance fun found => ?_
  cases found <;> infer_instance

instance (name : Bytes) : Keeps (namedVariable name) := by
  unfold namedVariable
  refine .bind inferInstance fun _ => .bind inferInstance fun found => ?_
  split <;> infer_instance

/-! ### Functions -/

/-- A function that is opened, and closed by what follows. -/
theorem keeps_function (lineDefined : Nat) (varargs : Bool) (upvalues : List UpvalueEntry) {α : Type}
    {p : Unit → Parse α} (hp : ∀ a, Closes (p a)) :
    Keeps (openFunction lineDefined varargs upvalues >>= p) where
  sourced {name indices s _ _} hs h := by
    obtain ⟨_, t, hopen, h⟩ := bind_eq_ok h
    have ht : Sourced name (s.finished.size :: indices) t := by
      cases hopen
      refine ⟨hs.source, ?_, fun i f hf => ?_⟩
      · rw [List.map_cons, hs.functions]
      · dsimp only at hf
        rw [Array.getElem?_push] at hf
        split at hf
        · next hi => exact .inr (by simp [hi])
        · exact (hs.finished i f hf).imp_right (List.mem_cons_of_mem _)
    exact (hp _).sourced ht h

instance (lastLine : Nat) (code : Code) : Closes (closeFunction lastLine code) where
  sourced {name i indices s _ _} hs h := by
    unfold closeFunction at h
    obtain ⟨_, _, hget, h⟩ := bind_eq_ok h
    cases hget
    have hfunctions := hs.functions
    cases hcons : s.functions with
    | nil =>
      rw [hcons] at hfunctions
      cases hfunctions
    | cons f outer =>
      rw [hcons, List.map_cons, List.cons.injEq] at hfunctions
      simp only [hcons] at h
      obtain ⟨rfl, rfl⟩ := hfunctions
      obtain ⟨_, _, hset, h⟩ := bind_eq_ok h
      cases hset
      cases h
      refine ⟨hs.source, rfl, fun i g hg => ?_⟩
      dsimp only at hg
      rw [Array.getElem?_setIfInBounds] at hg
      split at hg
      · split at hg
        · cases hg
          exact .inl hs.source
        · cases hg
      · next hi =>
        exact (hs.finished i g hg).imp_right fun hmem => (List.mem_cons.mp hmem).resolve_left (Ne.symm hi)

/-! ### Operators, attributes, and statements without others in them -/

instance (op : Infix) (left right : Operand) (line : Nat) : Keeps (joinOperands op left right line) := by
  unfold joinOperands
  refine .bind inferInstance fun _ => ?_
  split <;> infer_instance

instance {α : Type} : Keeps (outOfFuel : Parse α) := by
  unfold outOfFuel
  infer_instance

instance (default : VariableKind) : Keeps (attributeKind default) := by
  unfold attributeKind
  infer_instance

instance (default : VariableKind) : Keeps (globalAttribute default) := by
  unfold globalAttribute
  refine .bind inferInstance fun _ => ?_
  split <;> infer_instance

instance (e : Operand) : Keeps (settleTarget e) := by
  unfold settleTarget
  split <;> infer_instance

instance (targets : List Operand) : Keeps (settleTargets targets) := by
  induction targets with
  | nil => exact inferInstanceAs (Keeps (pure _))
  | cons e rest ih =>
    unfold settleTargets
    infer_instance

instance : Keeps breakStatement := by
  unfold breakStatement
  refine .bind inferInstance fun f => .bind inferInstance fun _ => ?_
  split <;> infer_instance

instance : Keeps gotoStatement := by
  unfold gotoStatement
  refine .bind inferInstance fun line => .bind inferInstance fun _ => .bind inferInstance fun name =>
    .bind inferInstance fun number => .bind (keeps_updateFunction fun g => ?_) inferInstance
  split <;> rfl

instance (name : Bytes) (line : Nat) (isLast : Bool) : Keeps (addLabel name line isLast) := by
  unfold addLabel
  refine .bind inferInstance fun f => ?_
  split
  · infer_instance
  · refine .bind inferInstance fun number => .bind (keeps_updateFunction fun g => ?_) inferInstance
    split <;> rfl

/-! ### The grammar -/

/-- All parsers of the grammar, with so much fuel. -/
class Grammar (fuel : Nat) : Prop where
  expression : Keeps (expression fuel)
  subexpression : ∀ limit, Keeps (subexpression fuel limit)
  operators : ∀ limit left, Keeps (operators fuel limit left)
  simpleExpression : Keeps (simpleExpression fuel)
  primary : Keeps (primary fuel)
  suffixed : Keeps (suffixed fuel)
  suffixes : ∀ e, Keeps (suffixes fuel e)
  bracketKey : Keeps (bracketKey fuel)
  callArguments : ∀ code given origin, Keeps (callArguments fuel code given origin)
  expressions : Keeps (expressions fuel)
  tableConstructor : Keeps (tableConstructor fuel)
  tableFields : ∀ next, Keeps (tableFields fuel next)
  functionBody : ∀ isMethod line, Keeps (functionBody fuel isMethod line)
  parameterList : Keeps (parameterList fuel)
  block : Keeps (block fuel)
  statements : Keeps (statements fuel)
  returnStatement : Keeps (returnStatement fuel)
  statement : Keeps (statement fuel)
  conditional : ∀ done, Keeps (conditional fuel done)
  whileStatement : Keeps (whileStatement fuel)
  repeatStatement : Keeps (repeatStatement fuel)
  forStatement : Keeps (forStatement fuel)
  numericFor : ∀ name line exit, Keeps (numericFor fuel name line exit)
  genericFor : ∀ name line exit, Keeps (genericFor fuel name line exit)
  moreNames : Keeps (moreNames fuel)
  functionStatement : Keeps (functionStatement fuel)
  functionName : ∀ e, Keeps (functionName fuel e)
  localFunction : Keeps (localFunction fuel)
  localNames : ∀ default hasClose count, Keeps (localNames fuel default hasClose count)
  localStatement : Keeps (localStatement fuel)
  globalNames : ∀ default, Keeps (globalNames fuel default)
  globalStatement : Keeps (globalStatement fuel)
  globalFunction : ∀ line, Keeps (globalFunction fuel line)
  labelStatement : ∀ name line, Keeps (labelStatement fuel name line)
  emptyStatements : Keeps (emptyStatements fuel)
  expressionStatement : Keeps (expressionStatement fuel)
  assignment : ∀ targets e, Keeps (assignment fuel targets e)

attribute [instance] Grammar.expression Grammar.subexpression Grammar.operators Grammar.simpleExpression
  Grammar.primary Grammar.suffixed Grammar.suffixes Grammar.bracketKey Grammar.callArguments
  Grammar.expressions Grammar.tableConstructor Grammar.tableFields Grammar.functionBody
  Grammar.parameterList Grammar.block Grammar.statements Grammar.returnStatement Grammar.statement
  Grammar.conditional Grammar.whileStatement Grammar.repeatStatement Grammar.forStatement
  Grammar.numericFor Grammar.genericFor Grammar.moreNames Grammar.functionStatement Grammar.functionName
  Grammar.localFunction Grammar.localNames Grammar.localStatement Grammar.globalNames
  Grammar.globalStatement Grammar.globalFunction Grammar.labelStatement Grammar.emptyStatements
  Grammar.expressionStatement Grammar.assignment

instance : Grammar 0 := by
  constructor <;> intros <;> exact inferInstanceAs (Keeps outOfFuel)

-- Some parsers are made of many others.
set_option synthInstance.maxSize 1000

section

variable {fuel : Nat} [Grammar fuel]

-- Parsers that look at a token, or read a part only at times, are split by that; for the others there is
-- an instance.

theorem keeps_operators (limit : Nat) (left : Operand) : Keeps (operators (fuel + 1) limit left) := by
  unfold operators
  refine .bind inferInstance fun l => ?_
  split <;> infer_instance

theorem keeps_simpleExpression : Keeps (simpleExpression (fuel + 1)) := by
  unfold simpleExpression
  refine .bind inferInstance fun l => ?_
  split
  · infer_instance
  · split <;> infer_instance

theorem keeps_primary : Keeps (primary (fuel + 1)) := by
  unfold primary
  refine .bind inferInstance fun l => ?_
  split <;> infer_instance

theorem keeps_suffixes (e : Operand) : Keeps (suffixes (fuel + 1) e) := by
  unfold suffixes
  refine .bind inferInstance fun t => ?_
  split <;> infer_instance

theorem keeps_callArguments (code : Code) (given : Nat) (origin : Option Origin) :
    Keeps (callArguments (fuel + 1) code given origin) := by
  unfold callArguments
  refine .bind inferInstance fun l => ?_
  split <;> infer_instance

theorem keeps_tableFields (next : Nat) : Keeps (tableFields (fuel + 1) next) := by
  unfold tableFields
  refine .bind inferInstance fun l => ?_
  dsimp only
  split <;> infer_instance

theorem keeps_functionBody (isMethod : Bool) (line : Nat) :
    Keeps (functionBody (fuel + 1) isMethod line) := by
  unfold functionBody
  have hbody : ∀ packed : Code, Closes (do
      expect (punct ')')
      updateFunction fun f => { f with parameters := f.nextSlot - (if packed.isEmpty then 0 else 1) }
      let body ← statements fuel
      let last ← Parse.line
      expectClosing (.keyword .end) (.keyword .function) line
      let tail ← leaveBlock
      let index ← closeFunction last (packed ++ body ++ tail)
      return Operand.value [⟨.closure index, last⟩] none) := fun packed =>
    .after inferInstance fun _ => .after (keeps_updateFunction fun _ => rfl) inferInstance
  exact keeps_function _ _ _ inferInstance

theorem keeps_parameterList : Keeps (parameterList (fuel + 1)) := by
  unfold parameterList
  refine .bind inferInstance fun t => ?_
  split
  · infer_instance
  · refine .bind inferInstance fun _ => .bind (keeps_updateFunction fun _ => rfl) fun _ =>
      .bind inferInstance fun t => ?_
    split <;> infer_instance
  · infer_instance

theorem keeps_statements : Keeps (statements (fuel + 1)) := by
  unfold statements
  refine .bind inferInstance fun t => ?_
  split <;> infer_instance

theorem keeps_returned (es : List Operand) : Keeps (do
    let last ← lastLine
    let code ← match es with
      | [.call c n spread origin line] => do
        if (firstToClose (← inFunction) 0).isSome then
          pure (c ++ [⟨.call n spread .all origin, line⟩, ⟨.ret 0 true, last⟩])
        else pure (c ++ [⟨.tailCall n spread origin, line⟩])
      | es =>
        let (c, n, spread) := Operand.listCode es
        pure (c ++ [⟨.ret n spread, last⟩])
    let _ ← accept (punct ';')
    return code) := by
  refine .bind inferInstance fun last => ?_
  split <;> infer_instance

theorem keeps_returnStatement : Keeps (returnStatement (fuel + 1)) := by
  unfold returnStatement
  refine .bind inferInstance fun _ => .bind inferInstance fun t => ?_
  have hreturned := keeps_returned
  infer_instance

theorem keeps_statement : Keeps (statement (fuel + 1)) := by
  unfold statement
  refine .bind inferInstance fun l => ?_
  split
  case h_12 =>
    split
    · refine .bind inferInstance fun t => ?_
      split <;> infer_instance
    · infer_instance
  all_goals infer_instance

theorem keeps_conditional (done : Nat) : Keeps (conditional (fuel + 1) done) := by
  unfold conditional
  refine .bind inferInstance fun _ => .bind inferInstance fun condition => .bind inferInstance fun _ =>
    .bind inferInstance fun line => .bind inferInstance fun otherwise => .bind inferInstance fun body =>
    .bind inferInstance fun t => ?_
  split <;> infer_instance

theorem keeps_forStatement : Keeps (forStatement (fuel + 1)) := by
  unfold forStatement
  refine .bind inferInstance fun l => .bind inferInstance fun _ => .bind inferInstance fun exit =>
    .bind inferInstance fun _ => .bind inferInstance fun name => .bind inferInstance fun t => ?_
  split <;> infer_instance

theorem keeps_numericFor (name : Bytes) (line exit : Nat) :
    Keeps (numericFor (fuel + 1) name line exit) := by
  unfold numericFor
  refine .bind inferInstance fun _ => .bind inferInstance fun first => .bind inferInstance fun _ =>
    .bind inferInstance fun limit => .bind inferInstance fun more => ?_
  split <;> infer_instance

theorem keeps_genericFor (name : Bytes) (line exit : Nat) :
    Keeps (genericFor (fuel + 1) name line exit) := by
  unfold genericFor
  refine .bind inferInstance fun names => .bind inferInstance fun _ => .bind inferInstance fun line' =>
    .bind inferInstance fun es => .bind inferInstance fun base => .bind inferInstance fun last => ?_
  infer_instance

theorem keeps_functionName (e : Operand) : Keeps (functionName (fuel + 1) e) := by
  unfold functionName
  refine .bind inferInstance fun t => ?_
  split <;> infer_instance

theorem keeps_expressionStatement : Keeps (expressionStatement (fuel + 1)) := by
  unfold expressionStatement
  refine .bind inferInstance fun e => .bind inferInstance fun t => ?_
  split
  · infer_instance
  · split <;> infer_instance

theorem keeps_targets (targets : List Operand) (e : Operand) : Keeps (do
    checkAssignable e
    let targets := e :: targets
    if ← accept (punct ',') then
      let next ← suffixed fuel
      nested (assignment fuel targets next)
    else
      expect (punct '=')
      let es ← expressions fuel
      let last ← lastLine
      match targets with
      | [target] => return storeValue target (Operand.adjusted last 1 es) last
      | targets => do
        let (settled, targets') ← settleTargets targets.reverse
        return settled ++ Operand.adjusted last targets'.length es
          ++ targets'.reverse.flatMap (storeTop · last)) := by
  refine .bind inferInstance fun _ => .bind inferInstance fun more => ?_
  split
  · infer_instance
  · refine .bind inferInstance fun _ => .bind inferInstance fun es => .bind inferInstance fun last => ?_
    split <;> infer_instance

theorem keeps_assignment (targets : List Operand) (e : Operand) :
    Keeps (assignment (fuel + 1) targets e) := by
  unfold assignment
  have htargets := @keeps_targets fuel _ targets e
  dsimp only
  split
  · infer_instance
  · exact htargets

instance : Grammar (fuel + 1) where
  expression := by
    unfold Parse.expression
    infer_instance
  subexpression limit := by
    unfold Parse.subexpression
    infer_instance
  operators := keeps_operators
  simpleExpression := keeps_simpleExpression
  primary := keeps_primary
  suffixed := by
    unfold Parse.suffixed
    infer_instance
  suffixes := keeps_suffixes
  bracketKey := by
    unfold Parse.bracketKey
    infer_instance
  callArguments := keeps_callArguments
  expressions := by
    unfold Parse.expressions
    infer_instance
  tableConstructor := by
    unfold Parse.tableConstructor
    infer_instance
  tableFields := keeps_tableFields
  functionBody := keeps_functionBody
  parameterList := keeps_parameterList
  block := by
    unfold Parse.block
    infer_instance
  statements := keeps_statements
  returnStatement := keeps_returnStatement
  statement := keeps_statement
  conditional := keeps_conditional
  whileStatement := by
    unfold Parse.whileStatement
    infer_instance
  repeatStatement := by
    unfold Parse.repeatStatement
    infer_instance
  forStatement := keeps_forStatement
  numericFor := keeps_numericFor
  genericFor := keeps_genericFor
  moreNames := by
    unfold Parse.moreNames
    infer_instance
  functionStatement := by
    unfold Parse.functionStatement
    infer_instance
  functionName := keeps_functionName
  localFunction := by
    unfold Parse.localFunction
    infer_instance
  localNames default hasClose count := by
    unfold Parse.localNames
    infer_instance
  localStatement := by
    unfold Parse.localStatement
    infer_instance
  globalNames default := by
    unfold Parse.globalNames
    infer_instance
  globalStatement := by
    unfold Parse.globalStatement
    infer_instance
  globalFunction line := by
    unfold Parse.globalFunction
    infer_instance
  labelStatement name line := by
    unfold Parse.labelStatement
    infer_instance
  emptyStatements := by
    unfold Parse.emptyStatements
    infer_instance
  expressionStatement := keeps_expressionStatement
  assignment := keeps_assignment

end

theorem grammar (fuel : Nat) : Grammar fuel := by
  induction fuel with
  | zero => infer_instance
  | succ fuel ih => infer_instance

theorem keeps_mainFunction (fuel : Nat) : Keeps (mainFunction fuel) := by
  have := grammar fuel
  unfold mainFunction
  exact keeps_function _ _ _ inferInstance

end Parse

/-- Every function of a chunk has the name of the chunk as its source. -/
theorem source_of_mem_compile {name text : Bytes} {chunk : Chunk} (h : compile name text = .ok chunk)
    {f : Function} (hf : f ∈ chunk) : f.source = name := by
  unfold compile at h
  dsimp only at h
  split at h
  · cases h
  · split at h
    · next s hrun =>
      cases h
      have hstart : ∀ lexemes fault, Sourced name [] { lexemes, fault, source := name } :=
        fun _ _ => ⟨rfl, rfl, fun i f hf => by simp at hf⟩
      have hs := (Parse.keeps_mainFunction _).sourced (hstart _ _) hrun
      obtain ⟨i, hi⟩ := Array.mem_iff_getElem?.mp hf
      exact (hs.finished i f hi).resolve_right (by simp)
    · cases h

end KernelConfig.Script
