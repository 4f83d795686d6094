import KernelConfig.Settings.Load

/-!
The settings of a process: loaded when they are first asked for and kept until a reload or a clear.
A load that fails keeps what was there.
-/

set_option autoImplicit false

namespace KernelConfig

/-- Loaded settings with the number of their load. -/
structure LoadedSettings where
  number : Nat
  settings : Settings
  deriving DecidableEq, Repr

structure SettingsCache where
  current : Option LoadedSettings := none
  /-- How many loads have succeeded. -/
  loads : Nat := 0
  deriving DecidableEq, Repr

namespace SettingsCache

def clear (c : SettingsCache) : SettingsCache := { c with current := none }

/-- Replaces the kept settings by freshly loaded ones. -/
def reload (c : SettingsCache) (load : Except SettingsFault Settings) :
    Except SettingsFault LoadedSettings × SettingsCache :=
  match load with
  | .error f => (.error f, c)
  | .ok settings =>
    let loaded := ⟨c.loads, settings⟩
    (.ok loaded, ⟨some loaded, c.loads + 1⟩)

/-- The kept settings, or else freshly loaded ones. -/
def get (c : SettingsCache) (load : Except SettingsFault Settings) :
    Except SettingsFault LoadedSettings × SettingsCache :=
  match c.current with
  | some loaded => (.ok loaded, c)
  | none => c.reload load

end SettingsCache

end KernelConfig
