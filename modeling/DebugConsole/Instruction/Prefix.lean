import DebugConsole.Instruction.CodeSize
import DebugConsole.Instruction.Fetch

/-!
# Instruction prefixes

Any number of prefixes, in any order, stand in front of an opcode.

* `Prefixes.fetch`: the prefixes of an instruction and its first opcode byte.
* A size prefix selects the other size however often it occurs; of the two repeat prefixes the
  last one counts.
-/

namespace DebugConsole.Instruction

/-- The two repeat prefixes. -/
inductive Repeat where
  /-- F3, repeat while equal. -/
  | whileEqual
  /-- F2, repeat while not equal. -/
  | whileNotEqual
  deriving DecidableEq, Repr

/-- What the prefixes in front of an opcode say. -/
structure Prefixes where
  otherOperandSize : Bool := false
  otherAddressSize : Bool := false
  locked : Bool := false
  repeated : Option Repeat := none
  deriving DecidableEq, Repr

namespace Prefixes

/-- The prefixes with one more, if the byte is a prefix; segment overrides change nothing here. -/
def add? (p : Prefixes) (b : UInt8) : Option Prefixes :=
  match b.toNat with
  | 0x26 | 0x2E | 0x36 | 0x3E | 0x64 | 0x65 => some p
  | 0x66 => some { p with otherOperandSize := true }
  | 0x67 => some { p with otherAddressSize := true }
  | 0xF0 => some { p with locked := true }
  | 0xF2 => some { p with repeated := some .whileNotEqual }
  | 0xF3 => some { p with repeated := some .whileEqual }
  | _ => none

/-- The prefixes up to the first byte that is none, and that byte. -/
def fetchFrom (p : Prefixes) : Fetch (Prefixes × UInt8)
  | [] => none
  | b :: rest =>
    match p.add? b with
    | some p => fetchFrom p rest
    | none => some ((p, b), rest)

/-- The prefixes of an instruction and its first opcode byte. -/
def fetch : Fetch (Prefixes × UInt8) :=
  fetchFrom {}

/-- The operand size of an instruction with these prefixes. -/
def operandSize (p : Prefixes) (size : CodeSize) : CodeSize :=
  if p.otherOperandSize then size.other else size

/-- The address size of an instruction with these prefixes. -/
def addressSize (p : Prefixes) (size : CodeSize) : CodeSize :=
  if p.otherAddressSize then size.other else size

end Prefixes

end DebugConsole.Instruction
