import DebugConsole.Instruction.Opcode

/-!
# Decoding one instruction

* `Instruction.decode?`: the first instruction of a byte sequence, if it is complete, valid and at
  most fifteen bytes long.
* `Instruction.comesBack`: whether it returns to the instruction behind it, so that a debugger may
  run over it.
-/

namespace DebugConsole

/-- A decoded instruction. -/
structure Instruction where
  length : Nat
  flow : Instruction.Flow
  repeated : Option Instruction.Repeat
  deriving DecidableEq, Repr

namespace Instruction

/-- The greatest length of an instruction, prefixes included. -/
def maxLength : Nat := 15

/-- Whether the prefixes go with an instruction: only some memory operands can be locked, a repeat
prefix may select another instruction, and some addresses have one size only. -/
def Form.allows (form : Form) (size : CodeSize) (p : Prefixes) (inMemory : Bool) : Bool :=
  (!p.locked || (form.lockable && inMemory)) && form.repeats.contains p.repeated
    && (!form.wideAddress || p.addressSize size = .bits32)

/-- The instruction whose opcode has been read. -/
def fetchOperands (size : CodeSize) (p : Prefixes) : Operands → Fetch Form
  | .plain form => finish form false
  | .addressed form? => do
    let m ← ModRM.fetch
    let form ← Fetch.ofOption (form? m)
    m.fetchAddress (p.addressSize size)
    finish form m.isMemory
  | .registers form? => do
    let m ← ModRM.fetch
    let form ← Fetch.ofOption (form? m)
    finish form false
  | .suffixed suffixes => do
    let m ← ModRM.fetch
    m.fetchAddress (p.addressSize size)
    let suffix ← Fetch.byte
    Fetch.ofOption (if suffix.toNat ∈ suffixes && !p.locked then some {} else none)
where
  /-- Passes over the immediate, if the prefixes go with the instruction. -/
  finish (form : Form) (inMemory : Bool) : Fetch Form := do
    Fetch.skip (form.immediate.length (p.operandSize size) (p.addressSize size))
    Fetch.ofOption (if form.allows size p inMemory then some form else none)

/-- The operands that the opcode calls for; 0F is the escape to the second map. -/
def fetchOpcode (opcode : UInt8) : Fetch Operands :=
  if opcode = 0x0F then do
    Fetch.ofOption (Opcode.find? Opcode.secondary (← Fetch.byte))
  else
    Fetch.ofOption (Opcode.find? Opcode.primary opcode)

/-- One whole instruction: prefixes, opcode and operands. -/
def fetch (size : CodeSize) : Fetch (Prefixes × Form) := do
  let (p, opcode) ← Prefixes.fetch
  let operands ← fetchOpcode opcode
  let form ← fetchOperands size p operands
  return (p, form)

/-- The first instruction of a byte sequence. -/
def decode? (size : CodeSize) (code : List UInt8) : Option Instruction :=
  let window := code.take maxLength
  (fetch size window).map fun ((p, form), rest) =>
    ⟨window.length - rest.length, form.flow, p.repeated⟩

/-- Whether control returns to the next instruction by itself: calls, loops, software interrupts
and everything behind a repeat prefix. -/
def comesBack (i : Instruction) : Bool :=
  i.repeated.isSome || i.flow = .call || i.flow = .loop || i.flow = .interrupt

end Instruction

end DebugConsole
