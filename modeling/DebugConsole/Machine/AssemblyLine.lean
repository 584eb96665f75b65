import DebugConsole.Machine.Address

/-!
# Disassembled instructions
-/

namespace DebugConsole

/-- An instruction as the host writes it, with its address. -/
structure AssemblyLine where
  address : Address
  text : String
  deriving DecidableEq, Repr, Inhabited

end DebugConsole
