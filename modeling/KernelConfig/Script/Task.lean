import KernelConfig.Script.Operation

/-!
Tasks: what library functions do. A task works on the store and asks the machine for everything
that involves calls, threads, the active functions or the host.
-/

set_option autoImplicit false

namespace KernelConfig.Script

inductive ThreadStatus where
  | suspended
  | running
  | normal
  | dead
  deriving DecidableEq, Repr

def ThreadStatus.text : ThreadStatus → String
  | suspended => "suspended"
  | running => "running"
  | normal => "normal"
  | dead => "dead"

/-- An active function, as the debug library describes it. -/
structure Level where
  function : Value
  /-- The line that is being run, for a script's function. -/
  line : Option Nat
  /-- The name under which it was called. -/
  origin : Option Origin
  isTail : Bool := false
  extraArguments : Nat := 0
  deriving Inhabited

/-- One step of a task; the rest is a function of what the machine answers. -/
inductive Act where
  | done (s : Store) (results : List Value)
  | raise (s : Store) (v : Value)
  /-- An error whose message is preceded by the position of the caller. -/
  | fail (s : Store) (message : Bytes)
  | badArgument (s : Store) (number : Nat) (message : Bytes)
  | call (s : Store) (f : Value) (args : List Value) (rest : Store → List Value → Act)
  | guarded (s : Store) (f : Value) (args : List Value) (handler : Option Value)
      (rest : Store → Except Value (List Value) → Act)
  | levels (s : Store) (thread : Option Nat) (rest : Store → List Level → Act)
  | newThread (s : Store) (f : Value) (rest : Store → Nat → Act)
  | threadStatus (s : Store) (thread : Nat) (rest : Store → ThreadStatus → Act)
  | running (s : Store) (rest : Store → Nat → Act)
  | isYieldable (s : Store) (rest : Store → Bool → Act)
  | resume (s : Store) (thread : Nat) (args : List Value)
      (rest : Store → Except Value (List Value) → Act)
  | yield (s : Store) (values : List Value) (rest : Store → List Value → Act)
  | close (s : Store) (thread : Nat) (rest : Store → Except Value Unit → Act)
  | setHook (s : Store) (thread : Option Nat) (hook : Option (Value × Nat)) (rest : Store → Act)
  | getHook (s : Store) (thread : Option Nat) (rest : Store → Option (Value × Nat) → Act)
  | ticks (s : Store) (rest : Store → Nat → Act)
  | variable (s : Store) (name : String) (rest : Store → Option String → Act)

def Task (α : Type) := Store → (Store → α → Act) → Act

namespace Task

def pure {α : Type} (a : α) : Task α := fun s k => k s a

def bind {α β : Type} (t : Task α) (f : α → Task β) : Task β := fun s k => t s fun s a => f a s k

instance : Monad Task where
  pure := pure
  bind := bind

def run (t : Task (List Value)) (s : Store) : Act := t s Act.done

def store : Task Store := fun s k => k s s

def setStore (s : Store) : Task Unit := fun _ k => k s ()

def modifyStore (f : Store → Store) : Task Unit := fun s k => k (f s) ()

def raise {α : Type} (v : Value) : Task α := fun s _ => .raise s v

def fail {α : Type} (message : Bytes) : Task α := fun s _ => .fail s message

def failText {α : Type} (message : String) : Task α := fail (bytes message)

def badArgument {α : Type} (number : Nat) (message : Bytes) : Task α :=
  fun s _ => .badArgument s number message

def call (f : Value) (args : List Value) : Task (List Value) := fun s k => .call s f args k

def guarded (f : Value) (args : List Value) (handler : Option Value) :
    Task (Except Value (List Value)) :=
  fun s k => .guarded s f args handler k

def levels (thread : Option Nat) : Task (List Level) := fun s k => .levels s thread k

def newThread (f : Value) : Task Nat := fun s k => .newThread s f k

def threadStatus (thread : Nat) : Task ThreadStatus := fun s k => .threadStatus s thread k

def running : Task Nat := fun s k => .running s k

def isYieldable : Task Bool := fun s k => .isYieldable s k

def resume (thread : Nat) (args : List Value) : Task (Except Value (List Value)) :=
  fun s k => .resume s thread args k

def yield (values : List Value) : Task (List Value) := fun s k => .yield s values k

def close (thread : Nat) : Task (Except Value Unit) := fun s k => .close s thread k

def setHook (thread : Option Nat) (hook : Option (Value × Nat)) : Task Unit :=
  fun s k => .setHook s thread hook fun s => k s ()

def getHook (thread : Option Nat) : Task (Option (Value × Nat)) := fun s k => .getHook s thread k

def ticks : Task Nat := fun s k => .ticks s k

def processVariable (name : String) : Task (Option String) := fun s k => .variable s name k

def newTable (t : Table) : Task Value := fun s k =>
  let (s, id) := s.addTable t
  k s (.table id)

def outcome (o : Outcome) : Task Value :=
  match o with
  | .value v => pure v
  | .invoke f args => do return first (← call f args)
  | .fault f => raise (.string (f.before ++ f.after))

def index (t k : Value) : Task Value := do outcome ((← store).index t k)

/-- Takes up an assignment: it may be done, or left to a metamethod. -/
def assigned (r : Assigned) (k : Store → Unit → Act) : Act :=
  match r with
  | .stored s => k s ()
  | .invoke s f args => .call s f args fun s _ => k s ()
  | .fault s f => .raise s (.string (f.before ++ f.after))

def assign (t key v : Value) : Task Unit := fun s k => assigned (s.assign t key v) k

def assignRaw (id : Nat) (key v : Value) : Task Unit := fun s k => assigned (s.assignRaw id key v) k

def less (a b : Value) : Task Bool := do return (← outcome ((← store).less false a b)).isTruthy

def equal (a b : Value) : Task Bool := do return (← outcome ((← store).equal a b)).isTruthy

end Task

end KernelConfig.Script
