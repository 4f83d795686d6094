import KernelConfig.Value.Datum

/-!
Named data in the order of their first appearance.
-/

set_option autoImplicit false

namespace KernelConfig

abbrev Fields := List (String × Datum)

namespace Fields

def get? (fs : Fields) (key : String) : Option Datum := (fs.find? (·.1 = key)).map (·.2)

def has (fs : Fields) (key : String) : Bool := fs.any (·.1 = key)

/-- A key that is there keeps its place. -/
def put (fs : Fields) (key : String) (d : Datum) : Fields :=
  if fs.has key then fs.map fun e => if e.1 = key then (key, d) else e else fs ++ [(key, d)]

def putAll (fs news : Fields) : Fields := news.foldl (fun fs e => fs.put e.1 e.2) fs

def remove (fs : Fields) (keys : List String) : Fields := fs.filter fun e => !keys.contains e.1

def only (fs : Fields) (keys : List String) : Fields := fs.filter fun e => keys.contains e.1

def keys (fs : Fields) : List String := fs.map (·.1)

end Fields

end KernelConfig
