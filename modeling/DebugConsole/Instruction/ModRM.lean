import DebugConsole.Instruction.CodeSize
import DebugConsole.Instruction.Fetch

/-!
# The addressing byte

The byte behind most opcodes that names a register and a register or memory operand.

* `ModRM.fetch`: the byte alone.
* `ModRM.fetchAddress`: the scale byte and displacement that a memory operand brings with it.
-/

namespace DebugConsole.Instruction

/-- The addressing byte, split into its fields. -/
structure ModRM where
  /-- The two bits that choose a register or a kind of memory operand. -/
  mode : Nat
  /-- The three bits that name a register or extend the opcode. -/
  reg : Nat
  /-- The three bits that name the register or memory operand. -/
  rm : Nat
  deriving DecidableEq, Repr

namespace ModRM

/-- The fields of an addressing byte. -/
def ofByte (b : UInt8) : ModRM :=
  ⟨b.toNat / 64, b.toNat / 8 % 8, b.toNat % 8⟩

/-- Whether the second operand is in memory. -/
def isMemory (m : ModRM) : Bool :=
  m.mode != 3

/-- The addressing byte of an instruction. -/
def fetch : Fetch ModRM :=
  return ofByte (← Fetch.byte)

/-- The displacement of a 16-bit address, in bytes. -/
def displacement16 (m : ModRM) : Nat :=
  match m.mode with
  | 0 => if m.rm = 6 then 2 else 0
  | 1 => 1
  | 2 => 2
  | _ => 0

/-- The displacement of a 32-bit address with this base register, in bytes. -/
def displacement32 (m : ModRM) (base : Nat) : Nat :=
  match m.mode with
  | 0 => if base = 5 then 4 else 0
  | 1 => 1
  | 2 => 4
  | _ => 0

/-- Passes over what the memory operand brings with it; a register operand brings nothing. -/
def fetchAddress (size : CodeSize) (m : ModRM) : Fetch Unit :=
  match size with
  | .bits16 => Fetch.skip m.displacement16
  | .bits32 =>
    if m.isMemory && m.rm == 4 then do
      let scale ← Fetch.byte
      Fetch.skip (m.displacement32 (scale.toNat % 8))
    else
      Fetch.skip (m.displacement32 m.rm)

end ModRM

end DebugConsole.Instruction
