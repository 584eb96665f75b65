/-!
# Reading instruction bytes

Instructions are read byte by byte from the front; a read fails where the bytes end.

* `Fetch.byte`: the next byte.
* `Fetch.skip`: passes over a number of bytes.
-/

namespace DebugConsole.Instruction

/-- A computation that reads bytes from the front of a list and may fail. -/
abbrev Fetch := StateT (List UInt8) Option

namespace Fetch

/-- The next byte. -/
def byte : Fetch UInt8
  | [] => none
  | b :: rest => some (b, rest)

/-- Passes over `n` bytes. -/
def skip (n : Nat) : Fetch Unit :=
  fun bytes => if n ≤ bytes.length then some ((), bytes.drop n) else none

/-- A value that needs no further bytes, if there is one. -/
def ofOption {α : Type} (value? : Option α) : Fetch α :=
  fun bytes => value?.map (·, bytes)

end Fetch

end DebugConsole.Instruction
