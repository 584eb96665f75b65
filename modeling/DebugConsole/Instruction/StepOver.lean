import DebugConsole.Instruction.Decode
import DebugConsole.Machine.Address
import DebugConsole.Machine.Descriptor

/-!
# Stepping over an instruction

* `stepOverTarget`: where execution resumes behind an instruction that comes back.
* `CodeSize.ofSlot`: the size of the code that a selector names, if its slot describes code.
-/

namespace DebugConsole

/-- The address behind the first instruction of `code`, which lies at `a`, if that instruction
comes back to it. The instruction pointer wraps at the code size. -/
def stepOverTarget (size : CodeSize) (a : Address) (code : List UInt8) : Option Address :=
  match Instruction.decode? size code with
  | some i =>
    if i.comesBack then
      some { a with offset := UInt32.ofNat ((a.offset.toNat + i.length) % size.span) }
    else none
  | none => none

/-- Whether a selector points into the local table. -/
def selectsLocal (selector : UInt16) : Bool :=
  selector &&& 4 != 0

/-- The slot that a selector names in its table. -/
def slotOf? (table : List Descriptor) (selector : UInt16) : Option Descriptor :=
  table[(selector >>> 3).toNat]?

/-- The size of the code in a slot; only code segments have one. -/
def CodeSize.ofSlot : Descriptor → Option CodeSize
  | .segment s => if s.kind.isCode then some (.ofBig s.big) else none
  | .gate _ => none

/-- The size of the code that a selector names; `fallback` where the slot describes no code, as in
real mode. -/
def CodeSize.ofSelector (table : List Descriptor) (selector : UInt16) (fallback : CodeSize) :
    CodeSize :=
  ((slotOf? table selector).bind CodeSize.ofSlot).getD fallback

end DebugConsole
