import KernelConfig.Script.Execution
import KernelConfig.Script.Position

/-!
Frames: the active functions of a thread, innermost first, and the marks between them that say why a
function was called from outside a script.
-/

set_option autoImplicit false

namespace KernelConfig.Script

/-- What a library function waits for. -/
inductive Pending where
  | running
  | results (rest : Store → List Value → Act)
  | guarded (handler : Option Value) (rest : Store → Except Value (List Value) → Act)
  | resumed (rest : Store → Except Value (List Value) → Act)
  | yielded (rest : Store → List Value → Act)
  | closed (rest : Store → Except Value Unit → Act)

structure NativeCall where
  function : Value
  pending : Pending := .running
  origin : Option Origin
  extraArguments : Nat
  isNested : Bool

inductive Frame where
  | script (a : Activation)
  | native (c : NativeCall)
  /-- Below this the host waits. -/
  | entry
  /-- Above this a handler looks at an error. -/
  | handling
  | hook
  /-- Above this a variable is being closed; others follow, and then an error goes on if there is one. -/
  | closing (rest : List Value) (error : Option Value)

namespace Frame

def isNested : Frame → Bool
  | script a => a.isNested
  | native c => c.isNested
  | _ => false

def isHook : Frame → Bool
  | hook => true
  | _ => false

/-- The active function of a frame that is not a mark. -/
def level? : Frame → Option Level
  | script a => some {
      function := .closure a.closure, line := some a.line, origin := a.origin
      isTail := a.isTail, extraArguments := a.extraArguments }
  | native c => some {
      function := c.function, line := none, origin := c.origin
      extraArguments := c.extraArguments }
  | _ => none

/-- Whether a thread can yield while the frame is there. -/
def allowsYield : Frame → Bool
  | script _ => true
  | native c => match c.pending with
    | .results _ => c.function == .native .pairs || c.function == .native .dofile
    | .closed _ => false
    | _ => true
  | _ => false

/-- The handler of the innermost guarded call, if there is such a call; it may have none. -/
def handler? : List Frame → Option (Option Value)
  | [] => none
  | .entry :: _ => some (some (.native .debugTraceback))
  | .closing _ _ :: _ => some none
  | .native c :: rest => match c.pending with
    | .guarded handler _ => some handler
    | _ => handler? rest
  | _ :: rest => handler? rest

/-- What is left when an error has passed the frames down to a guarded call. -/
structure Unwound where
  frames : List Frame
  /-- The values to be closed, latest first. -/
  toClose : List Value
  /-- How many frames are gone, and how many of them were nested. -/
  gone : Nat
  goneNested : Nat

def unwind (s : Store) (toClose : List Value) (gone goneNested : Nat) : List Frame → Option Unwound
  | [] => none
  | .entry :: rest => some ⟨.entry :: rest, toClose, gone, goneNested⟩
  | .closing others _ :: rest => some ⟨rest, toClose ++ others, gone, goneNested⟩
  | .script a :: rest =>
    unwind s (toClose ++ a.closing s) (gone + 1) (goneNested + a.isNested.toNat) rest
  | .native c :: rest => match c.pending with
    | .guarded handler k =>
      some ⟨.native { c with pending := .guarded handler k } :: rest, toClose, gone, goneNested⟩
    | _ => unwind s toClose (gone + 1) (goneNested + c.isNested.toNat) rest
  | _ :: rest => unwind s toClose gone goneNested rest

/-- The position of the innermost active function in messages, if it is a script's. -/
def position (s : Store) : List Frame → Bytes
  | [] => []
  | .script a :: _ =>
    positionText a.function.source a.line ++ [32]
  | .native _ :: _ => []
  | _ :: rest => position s rest

end Frame

end KernelConfig.Script
