import DebugConsole.Instruction.ModRM
import DebugConsole.Instruction.Prefix

/-!
# Opcode maps

The one-byte opcodes and those behind the escape byte 0F, as lists of rows. An opcode outside the
maps is invalid, or belongs to an extension whose instructions a repeat prefix only chooses between:
none of those is ever stepped over, so they need no row.

* `Form`: what an instruction looks like behind its opcode and addressing byte, and where it leads.
* `Opcode.find?`: the row of an opcode.
-/

namespace DebugConsole.Instruction

/-- Where an instruction leads. -/
inductive Flow where
  /-- To the next instruction, or to the target of a conditional branch. -/
  | onward
  | call
  | loop
  | interrupt
  | jump
  | ret
  deriving DecidableEq, Repr

/-- The bytes at the end of an instruction. -/
inductive Immediate where
  | none
  | byte
  | word
  /-- A word and a byte. -/
  | frame
  /-- A value of the operand size. -/
  | operand
  /-- An offset of the address size. -/
  | address
  /-- An offset of the operand size and a selector. -/
  | pointer
  deriving DecidableEq, Repr

/-- The number of bytes of an immediate. -/
def Immediate.length (operandSize addressSize : CodeSize) : Immediate → Nat
  | .none => 0
  | .byte => 1
  | .word => 2
  | .frame => 3
  | .operand => operandSize.bytes
  | .address => addressSize.bytes
  | .pointer => operandSize.bytes + 2

/-- An instruction behind its opcode and addressing byte. -/
structure Form where
  immediate : Immediate := .none
  flow : Flow := .onward
  /-- Whether the instruction may be locked when its operand is in memory. -/
  lockable : Bool := false
  /-- The repeat prefixes that the instruction goes with, and `none` if it can stand without one.
  Behind any other the bytes are another instruction, or invalid. -/
  repeats : List (Option Repeat) := [none, some .whileEqual, some .whileNotEqual]
  /-- Whether the instruction needs 32-bit addresses. -/
  wideAddress : Bool := false

/-- What follows an opcode. -/
inductive Operands where
  /-- No addressing byte. -/
  | plain (form : Form)
  /-- An addressing byte with its operand; it may rule the instruction out. -/
  | addressed (form? : ModRM → Option Form)
  /-- An addressing byte that names registers only, whatever its mode. -/
  | registers (form? : ModRM → Option Form)
  /-- An addressing byte with its operand, and a last byte that completes the opcode. -/
  | suffixed (suffixes : List Nat)

/-- Consecutive opcodes of one shape. -/
structure Row where
  first : Nat
  last : Nat
  operands : Operands

namespace Opcode

/-- The repeat prefixes of an instruction that F3 turns into another one. -/
def notWhileEqual : List (Option Repeat) := [none, some .whileNotEqual]

/-- Any operand. -/
def any (form : Form) : Operands :=
  .addressed fun _ => some form

/-- Memory operands only. -/
def memory (form : Form) : Operands :=
  .addressed fun m => if m.isMemory then some form else none

/-- An addressing byte whose register field extends the opcode. -/
def group (form? : Nat → Option Form) : Operands :=
  .addressed fun m => form? m.reg

/-- The six operand shapes of an arithmetic operation and the stack operations behind them. -/
def arithmetic (base : Nat) (lockable : Bool) : List Row :=
  [⟨base, base + 1, any { lockable }⟩,
   ⟨base + 2, base + 3, any {}⟩,
   ⟨base + 4, base + 4, .plain { immediate := .byte }⟩,
   ⟨base + 5, base + 5, .plain { immediate := .operand }⟩,
   ⟨base + 6, base + 7, .plain {}⟩]

/-- Arithmetic with an immediate; the comparison is the only one that cannot be locked. -/
def arithmeticGroup (immediate : Immediate) : Operands :=
  group fun reg => some { immediate, lockable := reg != 7 }

/-- Test, complement, negate, multiply and divide; only the tests have an immediate. -/
def unaryGroup (immediate : Immediate) : Operands :=
  group fun reg =>
    if reg < 2 then some { immediate }
    else some { lockable := reg < 4 }

/-- Increment, decrement, calls, jumps and push; far targets are in memory. -/
def indirectGroup : Operands :=
  .addressed fun m =>
    match m.reg with
    | 0 | 1 => some { lockable := true }
    | 2 => some { flow := .call }
    | 3 => if m.isMemory then some { flow := .call } else none
    | 4 => some { flow := .jump }
    | 5 => if m.isMemory then some { flow := .jump } else none
    | 6 => some {}
    | _ => none

/-- Move of an immediate, and the transaction instruction that shares its opcode. -/
def moveGroup (immediate : Immediate) : Operands :=
  .addressed fun m =>
    if m.reg = 0 || m = ⟨3, 7, 0⟩ then some { immediate } else none

/-- Whether the coprocessor knows an operation: `escape` counts from D8. -/
def isCoprocessor (escape : Nat) (m : ModRM) : Bool :=
  if m.isMemory then
    (escape, m.reg) ∉ [(1, 1), (3, 4), (3, 6), (5, 5)]
  else
    match escape, m.reg with
    | 1, 2 => m.rm = 0
    | 1, 4 => m.rm ∉ [2, 3, 6, 7]
    | 1, 5 => m.rm ≠ 7
    | 2, 4 => false
    | 2, 5 => m.rm = 1
    | 2, 6 | 2, 7 => false
    | 3, 4 => m.rm ≤ 4
    | 3, 7 => false
    | 5, 6 | 5, 7 => false
    | 6, 3 => m.rm = 1
    | 7, 4 => m.rm = 0
    | 7, 7 => false
    | _, _ => true

/-- The rows of one coprocessor escape. -/
def coprocessor (escape : Nat) : Row :=
  ⟨0xD8 + escape, 0xD8 + escape,
    .addressed fun m => if isCoprocessor escape m then some {} else none⟩

/-- The one-byte opcodes. -/
def primary : List Row :=
  arithmetic 0x00 true ++ arithmetic 0x08 true ++ arithmetic 0x10 true ++ arithmetic 0x18 true
    ++ arithmetic 0x20 true ++ arithmetic 0x28 true ++ arithmetic 0x30 true
    ++ arithmetic 0x38 false ++
  [⟨0x40, 0x61, .plain {}⟩,
   ⟨0x62, 0x62, memory {}⟩,
   ⟨0x63, 0x63, any {}⟩,
   ⟨0x68, 0x68, .plain { immediate := .operand }⟩,
   ⟨0x69, 0x69, any { immediate := .operand }⟩,
   ⟨0x6A, 0x6A, .plain { immediate := .byte }⟩,
   ⟨0x6B, 0x6B, any { immediate := .byte }⟩,
   ⟨0x6C, 0x6F, .plain {}⟩,
   ⟨0x70, 0x7F, .plain { immediate := .byte }⟩,
   ⟨0x80, 0x80, arithmeticGroup .byte⟩,
   ⟨0x81, 0x81, arithmeticGroup .operand⟩,
   ⟨0x82, 0x83, arithmeticGroup .byte⟩,
   ⟨0x84, 0x85, any {}⟩,
   ⟨0x86, 0x87, any { lockable := true }⟩,
   ⟨0x88, 0x8B, any {}⟩,
   ⟨0x8C, 0x8C, group fun reg => if reg < 6 then some {} else none⟩,
   ⟨0x8D, 0x8D, memory {}⟩,
   ⟨0x8E, 0x8E, group fun reg => if reg < 6 && reg != 1 then some {} else none⟩,
   ⟨0x8F, 0x8F, group fun reg => if reg = 0 then some {} else none⟩,
   ⟨0x90, 0x90, .plain { repeats := notWhileEqual }⟩,
   ⟨0x91, 0x99, .plain {}⟩,
   ⟨0x9A, 0x9A, .plain { immediate := .pointer, flow := .call }⟩,
   ⟨0x9B, 0x9F, .plain {}⟩,
   ⟨0xA0, 0xA3, .plain { immediate := .address }⟩,
   ⟨0xA4, 0xA7, .plain {}⟩,
   ⟨0xA8, 0xA8, .plain { immediate := .byte }⟩,
   ⟨0xA9, 0xA9, .plain { immediate := .operand }⟩,
   ⟨0xAA, 0xAF, .plain {}⟩,
   ⟨0xB0, 0xB7, .plain { immediate := .byte }⟩,
   ⟨0xB8, 0xBF, .plain { immediate := .operand }⟩,
   ⟨0xC0, 0xC1, any { immediate := .byte }⟩,
   ⟨0xC2, 0xC2, .plain { immediate := .word, flow := .ret }⟩,
   ⟨0xC3, 0xC3, .plain { flow := .ret }⟩,
   ⟨0xC4, 0xC5, memory {}⟩,
   ⟨0xC6, 0xC6, moveGroup .byte⟩,
   ⟨0xC7, 0xC7, moveGroup .operand⟩,
   ⟨0xC8, 0xC8, .plain { immediate := .frame }⟩,
   ⟨0xC9, 0xC9, .plain {}⟩,
   ⟨0xCA, 0xCA, .plain { immediate := .word, flow := .ret }⟩,
   ⟨0xCB, 0xCB, .plain { flow := .ret }⟩,
   ⟨0xCC, 0xCC, .plain { flow := .interrupt }⟩,
   ⟨0xCD, 0xCD, .plain { immediate := .byte, flow := .interrupt }⟩,
   ⟨0xCE, 0xCE, .plain { flow := .interrupt }⟩,
   ⟨0xCF, 0xCF, .plain { flow := .ret }⟩,
   ⟨0xD0, 0xD3, any {}⟩,
   ⟨0xD4, 0xD5, .plain { immediate := .byte }⟩,
   ⟨0xD6, 0xD7, .plain {}⟩]
    ++ (List.range 8).map coprocessor ++
  [⟨0xE0, 0xE2, .plain { immediate := .byte, flow := .loop }⟩,
   ⟨0xE3, 0xE7, .plain { immediate := .byte }⟩,
   ⟨0xE8, 0xE8, .plain { immediate := .operand, flow := .call }⟩,
   ⟨0xE9, 0xE9, .plain { immediate := .operand, flow := .jump }⟩,
   ⟨0xEA, 0xEA, .plain { immediate := .pointer, flow := .jump }⟩,
   ⟨0xEB, 0xEB, .plain { immediate := .byte, flow := .jump }⟩,
   ⟨0xEC, 0xEF, .plain {}⟩,
   ⟨0xF1, 0xF1, .plain {}⟩,
   ⟨0xF4, 0xF5, .plain {}⟩,
   ⟨0xF6, 0xF6, unaryGroup .byte⟩,
   ⟨0xF7, 0xF7, unaryGroup .operand⟩,
   ⟨0xF8, 0xFD, .plain {}⟩,
   ⟨0xFE, 0xFE, group fun reg => if reg < 2 then some { lockable := true } else none⟩,
   ⟨0xFF, 0xFF, indirectGroup⟩]

/-- The system operations behind 0F 01 that a repeat prefix leaves alone. -/
def isSystem (m : ModRM) : Bool :=
  if m.isMemory then m.reg ≠ 5
  else
    match m.reg with
    | 3 => m.rm ≠ 1
    | 4 | 6 => true
    | 7 => m.rm = 1 || m.rm = 4
    | _ => false

/-- The reserved hint 0F 1E. Shadow-stack reads and branch landing marks, which F3 makes of it, have
no form that repeats. -/
def landingHint (m : ModRM) : Form :=
  let shadowStack := !m.isMemory && m.reg = 1
  let landing := !m.isMemory && m.reg = 7 && (m.rm = 2 || m.rm = 3)
  if shadowStack || landing then { repeats := [none] } else {}

/-- The last bytes that complete the opcode 0F 0F. -/
def vectorSuffixes : List Nat :=
  [0x0C, 0x0D, 0x1C, 0x1D, 0x8A, 0x8E, 0x90, 0x94, 0x96, 0x97, 0x9A, 0x9E, 0xA0, 0xA4, 0xA6, 0xA7,
   0xAA, 0xAE, 0xB0, 0xB4, 0xB6, 0xB7, 0xBB, 0xBF]

/-- The hash and multiplication operations 0F A6, which always repeat. The multiplication, the first
of them, needs 32-bit addresses. -/
def hashForm? (m : ModRM) : Option Form :=
  if m.isMemory then none
  else some { repeats := [some .whileEqual], wideAddress := m.reg = 0 }

/-- The random store 0F A7, which may stand alone, and the encryptions behind it, which always
repeat. -/
def cipherForm? (m : ModRM) : Option Form :=
  if m.isMemory then none
  else if m.reg = 0 then some {}
  else some { repeats := [some .whileEqual] }

/-- The opcodes behind the escape byte 0F. -/
def secondary : List Row :=
  [⟨0x00, 0x00, group fun reg => if reg < 6 then some {} else none⟩,
   ⟨0x01, 0x01, .addressed fun m => if isSystem m then some {} else none⟩,
   ⟨0x02, 0x03, any {}⟩,
   ⟨0x05, 0x06, .plain {}⟩,
   ⟨0x07, 0x07, .plain { flow := .ret }⟩,
   ⟨0x08, 0x08, .plain {}⟩,
   ⟨0x09, 0x09, .plain { repeats := notWhileEqual }⟩,
   ⟨0x0B, 0x0B, .plain {}⟩,
   ⟨0x0D, 0x0D, any {}⟩,
   ⟨0x0E, 0x0E, .plain {}⟩,
   ⟨0x0F, 0x0F, .suffixed vectorSuffixes⟩,
   ⟨0x18, 0x1D, any {}⟩,
   ⟨0x1E, 0x1E, .addressed fun m => some (landingHint m)⟩,
   ⟨0x1F, 0x1F, any {}⟩,
   ⟨0x20, 0x20, .registers fun m => if m.reg ∈ [0, 2, 3, 4] then some {} else none⟩,
   ⟨0x21, 0x21, .registers fun _ => some {}⟩,
   ⟨0x22, 0x22, .registers fun m => if m.reg ∈ [0, 2, 3, 4] then some {} else none⟩,
   ⟨0x23, 0x23, .registers fun _ => some {}⟩,
   ⟨0x30, 0x34, .plain {}⟩,
   ⟨0x35, 0x35, .plain { flow := .ret }⟩,
   ⟨0x40, 0x4F, any {}⟩,
   ⟨0x80, 0x8F, .plain { immediate := .operand }⟩,
   ⟨0x90, 0x9F, any {}⟩,
   ⟨0xA0, 0xA2, .plain {}⟩,
   ⟨0xA3, 0xA3, any {}⟩,
   ⟨0xA4, 0xA4, any { immediate := .byte }⟩,
   ⟨0xA5, 0xA5, any {}⟩,
   ⟨0xA6, 0xA6, .addressed hashForm?⟩,
   ⟨0xA7, 0xA7, .addressed cipherForm?⟩,
   ⟨0xA8, 0xA9, .plain {}⟩,
   ⟨0xAA, 0xAA, .plain { flow := .ret }⟩,
   ⟨0xAB, 0xAB, any { lockable := true }⟩,
   ⟨0xAC, 0xAC, any { immediate := .byte }⟩,
   ⟨0xAD, 0xAD, any {}⟩,
   ⟨0xAF, 0xAF, any {}⟩,
   ⟨0xB0, 0xB1, any { lockable := true }⟩,
   ⟨0xB2, 0xB2, memory {}⟩,
   ⟨0xB3, 0xB3, any { lockable := true }⟩,
   ⟨0xB4, 0xB5, memory {}⟩,
   ⟨0xB6, 0xB7, any {}⟩,
   ⟨0xB9, 0xB9, any {}⟩,
   ⟨0xBA, 0xBA, group fun reg =>
      if reg < 4 then none else some { immediate := .byte, lockable := reg != 4 }⟩,
   ⟨0xBB, 0xBB, any { lockable := true }⟩,
   ⟨0xBC, 0xBD, any { repeats := notWhileEqual }⟩,
   ⟨0xBE, 0xBF, any {}⟩,
   ⟨0xC0, 0xC1, any { lockable := true }⟩,
   ⟨0xC7, 0xC7, .addressed fun m =>
      if m.isMemory && m.reg = 1 then some { lockable := true } else none⟩,
   ⟨0xC8, 0xCF, .plain {}⟩,
   ⟨0xFF, 0xFF, any {}⟩]

/-- The row of an opcode in a map. -/
def find? (rows : List Row) (opcode : UInt8) : Option Operands :=
  (rows.find? fun row => row.first ≤ opcode.toNat && opcode.toNat ≤ row.last).map (·.operands)

end Opcode

end DebugConsole.Instruction
