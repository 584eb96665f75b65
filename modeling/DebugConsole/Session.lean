import DebugConsole.Instruction.CodeSize
import DebugConsole.Machine.Registers

/-!
# Sessions

What the console remembers about the debugged machine between commands: the last two register
snapshots, and how symbols are resolved.

* `Session.update`: the session after one more snapshot.
-/

namespace DebugConsole

/-- What the console remembers between commands. -/
structure Session where
  /-- The offset of a symbol, if it has one. -/
  resolve : String → Option UInt32
  /-- The code size where no descriptor gives one. -/
  codeSize : CodeSize
  /-- The latest snapshot, and zeros before the first one. -/
  current : Registers := {}
  /-- The snapshot before the latest one. -/
  previous : Registers := {}
  /-- Whether there has been a snapshot. -/
  synced : Bool := false

namespace Session

/-- The session after one more snapshot. -/
def update (s : Session) (r : Registers) : Session :=
  { s with current := r, previous := s.current, synced := true }

end Session

end DebugConsole
