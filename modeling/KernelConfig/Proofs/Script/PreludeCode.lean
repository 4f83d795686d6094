import KernelConfig.Script.Machine
import KernelConfig.Script.Prelude

/-!
The code of the prelude: what the functions that prepare a script consist of, without the lines and
the files that only messages name.
-/

set_option autoImplicit false

namespace KernelConfig.Script

/-- What calling a function does depends on these parts of it. -/
structure Shape where
  parameters : Nat
  varargs : Bool
  slots : Nat
  captures : List Capture
  code : List Instr
  deriving DecidableEq

def Function.shape (f : Function) : Shape :=
  ⟨f.parameters, f.varargs, f.slots, f.captures, f.ops.toList.map (·.instr)⟩

namespace Prelude

def ofGlobal (name : String) : Option Origin := some ⟨.global, bytes name⟩

def ofUpvalue (name : String) : Option Origin := some ⟨.upvalue, bytes name⟩

def ofLocal (name : String) : Option Origin := some ⟨.localVariable, bytes name⟩

/-- A field of the globals that the function's upvalue `i` is. -/
def getGlobal (i : Nat) (name : String) : List Instr :=
  [.getUpvalue i, .field (bytes name) (ofUpvalue "_ENV")]

/-- Finds out from where a handle has been called: the source of the function that has called the method,
and a traceback from there. -/
def originShape : Shape where
  parameters := 0
  varargs := false
  slots := 2
  captures := [.slot 0, .slot 1]
  code :=
    [.getUpvalue 0, .push (.int 4), .push (.text "S"),
      .call 2 false (.exactly 1) (ofUpvalue "getinfo"), .newSlot 0,
      .push (.text "<internal>"), .newSlot 1,
      .getSlot 0, .jumpUnlessKeep 11, .getSlot 0, .field (bytes "source") (ofLocal "info"),
      .jumpUnless 19,
      .getSlot 0, .field (bytes "source") (ofLocal "info"),
      .method (bytes "gsub") (some ⟨.field, bytes "source"⟩), .push (.text "^[@=]"), .push (.text ""),
      .call 3 false (.exactly 1) (some ⟨.method, bytes "gsub"⟩), .setSlot 1,
      .getSlot 1, .getUpvalue 1, .push .nil, .push (.int 4),
      .call 2 false .all (ofUpvalue "traceback"), .ret 1 true, .ret 0 false]

/-- Sets the symbol of a handle, with where this was asked for. -/
def setFromHandleShape : Shape where
  parameters := 2
  varargs := false
  slots := 6
  captures := [.slot 6, .slot 5]
  code :=
    [.getUpvalue 0, .call 0 false (.exactly 2) (ofUpvalue "origin"), .newSlot 3, .newSlot 2,
      .getUpvalue 1, .getSlot 0, .field (bytes "_name") (ofLocal "sym"),
      .getSlot 1, .getSlot 2, .getSlot 3,
      .call 4 false (.exactly 2) (ofUpvalue "handle_set"), .newSlot 5, .newSlot 4,
      .getSlot 4, .getSlot 5, .ret 2 false, .ret 0 false]

/-- A method by which a handle sets its symbol. -/
def setterShape : Shape where
  parameters := 2
  varargs := false
  slots := 4
  captures := [.slot 7]
  code :=
    [.getUpvalue 0, .getSlot 0, .getSlot 1,
      .call 2 false (.exactly 2) (ofUpvalue "set_from_handle"), .newSlot 3, .newSlot 2,
      .getSlot 2, .getSlot 3, .ret 2 false, .ret 0 false]

/-- Calls a function of the host; the message of a fault becomes an error with a place. -/
def wrapperShape : Shape where
  parameters := 0
  varargs := true
  slots := 3
  captures := [.slot 0, .upvalue 0, .slot 1]
  code :=
    [.getUpvalue 0, .varargs .all, .call 0 true (.exactly 3) (ofUpvalue "host_fn"),
      .newSlot 2, .newSlot 1, .newSlot 0,
      .getSlot 0, .push (.text "ok"), .compare .ne, .jumpUnless 15]
    ++ getGlobal 1 "error"
    ++ [.getSlot 1, .getUpvalue 2, .call 2 false (.exactly 0) (ofGlobal "error"),
      .getSlot 1, .getSlot 2, .ret 2 false, .ret 0 false]

/-- Makes a handle: its table, its metatable and its name. -/
def newShape : Shape where
  parameters := 3
  varargs := false
  slots := 3
  captures := [.upvalue 0]
  code :=
    [.getSlot 1, .jumpIfKeep 3, .newTable, .setSlot 1]
    ++ getGlobal 0 "setmetatable"
    ++ [.getSlot 1, .getSlot 0, .call 2 false (.exactly 0) (ofGlobal "setmetatable"),
      .getSlot 1, .push (.text "_name"), .getSlot 2, .setIndex (ofLocal "o"),
      .getSlot 1, .ret 1 false, .ret 0 false]

/-- Makes the function that leads a function of the host to errors with a place. -/
def wrapShape : Shape where
  parameters := 2
  varargs := false
  slots := 2
  captures := [.upvalue 0]
  code := [.closure 11, .ret 1 false, .ret 0 false]

def bindSetterShape : Shape where
  parameters := 1
  varargs := false
  slots := 1
  captures := [.slot 5]
  code := [.getSlot 0, .setUpvalue 0, .ret 0 false]

/-- Calls the function of a script; an error that comes out of it is a result like any other. -/
def runShape : Shape where
  parameters := 1
  varargs := false
  slots := 4
  captures := [.slot 4, .slot 1, .upvalue 0]
  code :=
    [.push .nil, .newSlot 1, .getUpvalue 0, .getSlot 0, .closure 14,
      .call 2 false (.exactly 2) (ofUpvalue "raw_xpcall"), .newSlot 3, .newSlot 2,
      .getSlot 2, .jumpUnless 12, .push (.bool true), .ret 1 false, .push (.bool false)]
    ++ getGlobal 2 "tostring"
    ++ [.getSlot 3, .call 1 false (.exactly 1) (ofGlobal "tostring"), .getSlot 1, .ret 3 false,
      .ret 0 false]

/-- Replaces the functions that could catch the error of the deadline. -/
def guardShape : Shape where
  parameters := 2
  varargs := false
  slots := 5
  captures := [.upvalue 0, .slot 9, .slot 3, .slot 4, .slot 2]
  code :=
    getGlobal 0 "coroutine" ++ [.field (bytes "create") (ofGlobal "coroutine")]
    ++ getGlobal 0 "coroutine" ++ [.field (bytes "resume") (ofGlobal "coroutine")]
    ++ [.newSlot 3, .newSlot 2,
      .getUpvalue 0, .push (.text "pcall"), .closure 17, .setIndex (ofUpvalue "_ENV"),
      .getUpvalue 0, .push (.text "xpcall"), .closure 18, .setIndex (ofUpvalue "_ENV"),
      .push .nil, .newSlot 4, .closure 19, .setSlot 4]
    ++ getGlobal 0 "coroutine"
    ++ [.push (.text "create"), .getSlot 4, .setIndex (ofGlobal "coroutine")]
    ++ getGlobal 0 "coroutine"
    ++ [.push (.text "resume"), .closure 20, .setIndex (ofGlobal "coroutine")]
    ++ getGlobal 0 "coroutine"
    ++ [.push (.text "wrap"), .closure 21, .setIndex (ofGlobal "coroutine"), .ret 0 false]

def setDeadlineShape : Shape where
  parameters := 2
  varargs := false
  slots := 3
  captures := [.slot 8, .upvalue 0, .slot 10, .slot 2]
  code :=
    [.push .nil, .newSlot 2, .closure 25, .setSlot 2,
      .getUpvalue 2, .getSlot 2, .getSlot 1,
      .call 2 false (.exactly 0) (ofUpvalue "guard_protected_calls"),
      .getUpvalue 3, .getSlot 2, .push (.text ""), .getSlot 1,
      .call 3 false (.exactly 0) (ofUpvalue "sethook"), .ret 0 false]

/-- Asks whether there is time left, and raises an error if there is none. -/
def hookShape : Shape where
  parameters := 0
  varargs := false
  slots := 2
  captures := [.slot 0, .upvalue 0, .upvalue 1]
  code :=
    [.getUpvalue 0, .call 0 false (.exactly 2) (ofUpvalue "check"), .newSlot 1, .newSlot 0,
      .getSlot 0, .push (.text "ok"), .compare .ne, .jumpUnless 15,
      .getSlot 1, .setUpvalue 1]
    ++ getGlobal 2 "error"
    ++ [.getSlot 1, .push (.int 2), .call 2 false (.exactly 0) (ofGlobal "error"), .ret 0 false]

/-- Binds the globals of one entry after the other. -/
def defineShape : Shape where
  parameters := 1
  varargs := false
  slots := 8
  captures := [.upvalue 0]
  code :=
    getGlobal 0 "ipairs"
    ++ [.getSlot 0, .call 1 false (.exactly 4) (ofGlobal "ipairs"),
      .newSlot 4, .newSlot 3, .newSlot 2, .newSlot 1, .markClose 4 (bytes "(for state)"),
      .iterate 1 2, .iterateTest 1 39]
    ++ getGlobal 0 "Symbol"
    ++ [.method (bytes "new") (ofGlobal "Symbol"), .push .nil,
      .getSlot 6, .push (.int 1), .index (ofLocal "entry"),
      .call 3 false (.exactly 1) (some ⟨.method, bytes "new"⟩), .newSlot 7]
    ++ getGlobal 0 "_G"
    ++ [.getSlot 6, .push (.int 2), .index (ofLocal "entry"), .getSlot 7, .setIndex (ofGlobal "_G"),
      .getSlot 6, .push (.int 3), .index (ofLocal "entry"), .jumpUnless 38]
    ++ getGlobal 0 "_G"
    ++ [.getSlot 6, .push (.int 3), .index (ofLocal "entry"), .getSlot 7, .setIndex (ofGlobal "_G"),
      .jump 9, .closeFrom 4, .ret 0 false]

/-- The functions that prepare a script and those that its handles use, each with its place in the
prelude. -/
def shapes : List (Nat × Shape) :=
  [(1, originShape), (2, setFromHandleShape), (3, newShape), (7, setterShape), (8, setterShape),
    (10, wrapShape), (11, wrapperShape), (12, bindSetterShape), (13, runShape), (16, guardShape),
    (24, setDeadlineShape), (25, hookShape), (26, defineShape)]

/-- The variables that other functions of the prelude share with those around them. -/
def captures : List (Nat × List Capture) :=
  [(11, [.slot 0, .upvalue 0, .slot 1]), (14, [.slot 1, .upvalue 1, .upvalue 2]),
    (17, [.upvalue 1, .upvalue 2]), (18, [.upvalue 1, .upvalue 3]),
    (19, [.slot 2, .upvalue 4, .slot 0, .slot 1]), (20, [.upvalue 1, .slot 3]),
    (21, [.slot 4, .upvalue 0, .slot 3])]

/-- Whether a chunk has the functions of the prelude. -/
structure Known (chunk : Chunk) : Prop where
  shapes : ∀ e ∈ shapes, (chunk.getD e.1 default).shape = e.2
  captures : ∀ e ∈ captures, (chunk.getD e.1 default).captures = e.2

instance (chunk : Chunk) : Decidable (Known chunk) :=
  decidable_of_iff ((∀ e ∈ Prelude.shapes, (chunk.getD e.1 default).shape = e.2) ∧
      ∀ e ∈ Prelude.captures, (chunk.getD e.1 default).captures = e.2)
    ⟨fun h => ⟨h.1, h.2⟩, fun h => ⟨h.shapes, h.captures⟩⟩

end Prelude

end KernelConfig.Script
