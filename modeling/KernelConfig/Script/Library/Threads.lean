import KernelConfig.Script.Library.Base

/-!
Functions on coroutines: each is a thread of its own that runs until it yields, ends or fails.
-/

set_option autoImplicit false

namespace KernelConfig.Script.Library

def coroutineCreate (args : List Value) : Task (List Value) := do
  return [.thread (← Task.newThread (← checkFunction args 1))]

def coroutineWrap (args : List Value) : Task (List Value) := do
  return [.native (.wrapped (← Task.newThread (← checkFunction args 1)))]

def coroutineResume (args : List Value) : Task (List Value) := do
  match ← Task.resume (← checkThread args 1) (args.drop 1) with
  | .ok vs => return .bool true :: vs
  | .error e => return [.bool false, e]

/-- Goes on with a thread; its error becomes the caller's, a text with the caller's position. -/
def resumeWrapped (thread : Nat) (args : List Value) : Task (List Value) := do
  match ← Task.resume thread args with
  | .ok vs => return vs
  | .error e => do
    let e ← match ← Task.close thread with
      | .ok () => pure e
      | .error closing => pure closing
    match e with
    | .string m => Task.raise (.string ((← whereText 1) ++ m))
    | e => Task.raise e

def coroutineYield (args : List Value) : Task (List Value) := Task.yield args

def coroutineStatus (args : List Value) : Task (List Value) := do
  return [.text (← Task.threadStatus (← checkThread args 1)).text]

def coroutineRunning : Task (List Value) := do
  let thread ← Task.running
  return [.thread thread, .bool (thread = 0)]

def coroutineIsyieldable (args : List Value) : Task (List Value) := do
  if isAbsent args 1 then return flag (← Task.isYieldable)
  else return flag ((← checkThread args 1) ≠ 0)

def coroutineClose (args : List Value) : Task (List Value) := do
  let thread ← if isAbsent args 1 then Task.running else checkThread args 1
  match ← Task.threadStatus thread with
  | .suspended | .dead => match ← Task.close thread with
    | .ok () => return flag true
    | .error e => return [.bool false, e]
  | status => Task.failText ("cannot close a " ++ status.text ++ " coroutine")

end KernelConfig.Script.Library
