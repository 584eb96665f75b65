import DebugConsole.Machine.AssemblyLine
import DebugConsole.Machine.Breakpoint
import DebugConsole.Machine.Descriptor
import DebugConsole.Machine.Registers
import DebugConsole.Wire.Shape

/-!
# The machine's values on the wire

* `Marshal`: how a type is carried by a shape.
* Addresses travel as signed numbers with the same bits.
* A descriptor travels as its flat record, and a register by its tag, of which some are refused.
-/

namespace DebugConsole

namespace Wire

/-- A type whose values travel as values of a shape. -/
class Marshal (α : Type) where
  shape : Shape
  toValue : α → shape.Value
  ofValue : shape.Value → Except WireError α

namespace Marshal

variable (α : Type) [Marshal α]

/-- Reads a value. -/
def read : Reader α := do
  let value ← (shape α).read
  ofValue value

/-- Reads an array of values. -/
def readList : Reader (List α) :=
  Reader.items (shape α).alignment (read α)

variable {α}

/-- The wire form of a value at an offset. -/
def write (a : α) (offset : Nat) : List UInt8 :=
  (shape α).write (toValue a) offset

/-- The wire form of an array at an offset. -/
def writeList (items : List α) (offset : Nat) : List UInt8 :=
  Shape.writeArray (shape α).alignment write items offset

end Marshal

instance : Marshal UInt8 where
  shape := .byte
  toValue := id
  ofValue := .ok

instance : Marshal Address where
  shape := .struct (.both .int16 .int32)
  toValue a := (a.segment.toInt16, a.offset.toInt32)
  ofValue v := .ok ⟨v.1.toUInt16, v.2.toUInt32⟩

instance : Marshal Register where
  shape := .byte
  toValue := Register.tag
  ofValue tag :=
    match Register.ofTag? tag with
    | some r => .ok r
    | none => .error (.badRegisterTag tag)

instance : Marshal BreakpointKind where
  shape := .byte
  toValue := BreakpointKind.tag
  ofValue tag := .ok (.ofTag tag)

instance : Marshal Breakpoint where
  shape := .struct (.both (Marshal.shape Address)
    (.both (Marshal.shape BreakpointKind) (.both .byte .byte)))
  toValue b := (Marshal.toValue b.address, Marshal.toValue b.kind, b.ah, b.al)
  ofValue v := do
    let address ← Marshal.ofValue v.1
    let kind ← Marshal.ofValue v.2.1
    return ⟨address, kind, v.2.2.1, v.2.2.2⟩

instance : Marshal AssemblyLine where
  shape := .struct (.both (Marshal.shape Address) .text)
  toValue a := (Marshal.toValue a.address, a.text)
  ofValue v := return ⟨← Marshal.ofValue v.1, v.2⟩

instance : Marshal DescriptorRecord where
  shape := .struct (.both .byte (.both .uint32 (.both .uint32 (.both .uint16
    (.both .uint32 (.both .boolean .byte))))))
  toValue r := (r.kind, r.base, r.limit, r.selector, r.offset, r.big, r.dpl)
  ofValue v := .ok
    { kind := v.1, base := v.2.1, limit := v.2.2.1, selector := v.2.2.2.1
      offset := v.2.2.2.2.1, big := v.2.2.2.2.2.1, dpl := v.2.2.2.2.2.2 }

instance : Marshal Descriptor where
  shape := Marshal.shape DescriptorRecord
  toValue d := Marshal.toValue d.record
  ofValue v := return .ofRecord (← Marshal.ofValue v)

instance : Marshal Registers where
  shape := .struct
    (.both .boolean
      (.both .uint32 (.both .uint32 (.both .uint32 (.both .uint32 (.both .uint32
        (.both .uint32 (.both .uint32 (.both .uint32 (.both .uint32 (.both .uint32
          (.both .uint16 (.both .uint16 (.both .uint16 (.both .uint16
            (.both .uint16 .uint16))))))))))))))))
  toValue r :=
    (r.stopped, r.flags, r.eax, r.ebx, r.ecx, r.edx, r.esi, r.edi, r.ebp, r.esp, r.eip,
      r.cs, r.ds, r.es, r.ss, r.fs, r.gs)
  ofValue
    | (stopped, flags, eax, ebx, ecx, edx, esi, edi, ebp, esp, eip, cs, ds, es, ss, fs, gs) =>
      .ok { stopped, flags, eax, ebx, ecx, edx, esi, edi, ebp, esp, eip, cs, ds, es, ss, fs, gs }

end Wire

end DebugConsole
