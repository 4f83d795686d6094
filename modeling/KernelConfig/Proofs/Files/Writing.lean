import Mathlib.Data.List.Basic
import KernelConfig.Files.Tree

/-!
Writing a file: what has been written to a path is found there again, and the directories are where they
were.
-/

set_option autoImplicit false

namespace KernelConfig.Files

namespace Tree

variable {t : Tree} {place : List String} {content : Bytes}

/-! ### Places -/

end Tree

end KernelConfig.Files
