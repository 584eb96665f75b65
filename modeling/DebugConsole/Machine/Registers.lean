import DebugConsole.Machine.Address
import DebugConsole.Machine.Register

/-!
# Register snapshots

What the host reports about the processor at one moment.

* `Registers.get`: the value of a register by name, widened to 32 bits.
* `Registers.has`: whether a flag is set.
* `Registers.ip`: the address of the next instruction.
-/

namespace DebugConsole

/-- The flags that are shown, in ascending order of their bits. -/
inductive Flag where
  | carry | parity | adjust | zero | sign | trap | interrupt | direction | overflow
  deriving DecidableEq, Repr

namespace Flag

/-- Every flag, in ascending order of the bits. -/
def all : List Flag :=
  [.carry, .parity, .adjust, .zero, .sign, .trap, .interrupt, .direction, .overflow]

/-- Every flag, in the order of the register listing. -/
def listed : List Flag :=
  [.carry, .zero, .sign, .overflow, .adjust, .parity, .direction, .interrupt, .trap]

/-- The position of a flag in the flags register. -/
def bit : Flag → Nat
  | .carry => 0
  | .parity => 2
  | .adjust => 4
  | .zero => 6
  | .sign => 7
  | .trap => 8
  | .interrupt => 9
  | .direction => 10
  | .overflow => 11

/-- The letter that stands for a flag in listings. -/
def letter : Flag → Char
  | .carry => 'C'
  | .parity => 'P'
  | .adjust => 'A'
  | .zero => 'Z'
  | .sign => 'S'
  | .trap => 'T'
  | .interrupt => 'I'
  | .direction => 'D'
  | .overflow => 'O'

/-- The name of a flag, such as `CF`. -/
def name (f : Flag) : String :=
  .ofList [f.letter, 'F']

end Flag

/-- A register snapshot. -/
structure Registers where
  stopped : Bool := false
  flags : UInt32 := 0
  eax : UInt32 := 0
  ebx : UInt32 := 0
  ecx : UInt32 := 0
  edx : UInt32 := 0
  esi : UInt32 := 0
  edi : UInt32 := 0
  ebp : UInt32 := 0
  esp : UInt32 := 0
  eip : UInt32 := 0
  cs : UInt16 := 0
  ds : UInt16 := 0
  es : UInt16 := 0
  ss : UInt16 := 0
  fs : UInt16 := 0
  gs : UInt16 := 0
  deriving DecidableEq, Repr, Inhabited

namespace Registers

/-- The value of a register; selectors are widened with zeros. -/
def get (r : Registers) : Register → UInt32
  | .flags => r.flags
  | .eax => r.eax
  | .ebx => r.ebx
  | .ecx => r.ecx
  | .edx => r.edx
  | .esi => r.esi
  | .edi => r.edi
  | .ebp => r.ebp
  | .esp => r.esp
  | .eip => r.eip
  | .es => r.es.toUInt32
  | .cs => r.cs.toUInt32
  | .ss => r.ss.toUInt32
  | .ds => r.ds.toUInt32
  | .fs => r.fs.toUInt32
  | .gs => r.gs.toUInt32

/-- Whether a flag is set. -/
def has (r : Registers) (f : Flag) : Bool :=
  r.flags.toNat.testBit f.bit

/-- The address of the next instruction. -/
def ip (r : Registers) : Address :=
  ⟨r.cs, r.eip⟩

end Registers

end DebugConsole
