/-!
# Code sizes

A code segment holds 16-bit or 32-bit code, which decides the default sizes of operands and
addresses and where the instruction pointer wraps.
-/

namespace DebugConsole

/-- The default operand and address size of code. -/
inductive CodeSize where
  | bits16 | bits32
  deriving DecidableEq, Repr, Inhabited

namespace CodeSize

/-- The size in bits. -/
def bits : CodeSize → Nat
  | .bits16 => 16
  | .bits32 => 32

/-- The size in bytes. -/
def bytes : CodeSize → Nat
  | .bits16 => 2
  | .bits32 => 4

/-- The number of offsets that the instruction pointer can hold. -/
def span : CodeSize → Nat
  | .bits16 => UInt16.size
  | .bits32 => UInt32.size

/-- The other size, which a size prefix selects. -/
def other : CodeSize → CodeSize
  | .bits16 => .bits32
  | .bits32 => .bits16

/-- The size with that many bits. -/
def ofBits? : Nat → Option CodeSize
  | 16 => some .bits16
  | 32 => some .bits32
  | _ => none

/-- The size that a descriptor's `big` attribute gives. -/
def ofBig (big : Bool) : CodeSize :=
  if big then .bits32 else .bits16

end CodeSize

end DebugConsole
