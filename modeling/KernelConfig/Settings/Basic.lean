import KernelConfig.Decimal.Double

/-!
Settings: how sources are applied.
-/

set_option autoImplicit false

namespace KernelConfig

structure Settings where
  kernelDir : String := "/usr/src/linux"
  logLevel : String := "INFO"
  logFormat : String := "auto"
  /-- Whether a script that names an unknown symbol is given up. -/
  strictSymbols : Bool := true
  /-- Whether scripts are kept from files, programs and each other's variables. -/
  sandbox : Bool := true
  /-- How many seconds a script may run. -/
  scriptTimeout : Option Double := none
  /-- How deep sources may load one another. -/
  maxLoadDepth : Int := 16
  /-- What the names of all symbols begin with in configuration files. -/
  symbolLead : String := "CONFIG_"
  deriving DecidableEq, Repr, Inhabited

/-- Whether logs are written as JSON; by itself the format leaves it open. -/
def Settings.jsonLogs (s : Settings) : Option Bool :=
  if s.logFormat = "auto" then none else some (s.logFormat = "json")

end KernelConfig
