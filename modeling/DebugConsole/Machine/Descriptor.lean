/-!
# Segment and gate descriptors

* `SegmentKind.ofCode`: the five-bit type code. Bit 4 tells code and data from system descriptors,
  bit 3 code from data, and the low bits are attributes.
* `Descriptor.ofRecord`: a table slot read from its flat record; the type code alone decides
  whether it is a gate.
* `SegmentKind.typeCode`, `Descriptor.record`: back to the code and to a flat record.
-/

namespace DebugConsole

/-- System descriptor types. The reserved codes count as `invalid`. -/
inductive SystemKind where
  | invalid
  | tss286Available | ldt | tss286Busy | callGate286 | taskGate | intGate286 | trapGate286
  | tss386Available | tss386Busy | callGate386 | intGate386 | trapGate386
  deriving DecidableEq, Repr

namespace SystemKind

/-- The printed name. -/
def name : SystemKind → String
  | .invalid => "SysInvalid"
  | .tss286Available => "Sys286TssAvailable"
  | .ldt => "SysLdt"
  | .tss286Busy => "Sys286TssBusy"
  | .callGate286 => "Sys286CallGate"
  | .taskGate => "SysTaskGate"
  | .intGate286 => "Sys286IntGate"
  | .trapGate286 => "Sys286TrapGate"
  | .tss386Available => "Sys386TssAvailable"
  | .tss386Busy => "Sys386TssBusy"
  | .callGate386 => "Sys386CallGate"
  | .intGate386 => "Sys386IntGate"
  | .trapGate386 => "Sys386TrapGate"

/-- Whether a descriptor of this type names an entry point instead of a segment. -/
def isGate : SystemKind → Bool
  | .callGate286 | .taskGate | .intGate286 | .trapGate286 => true
  | .callGate386 | .intGate386 | .trapGate386 => true
  | _ => false

/-- The type of a four-bit system code. -/
def ofCode : Nat → SystemKind
  | 0x1 => .tss286Available
  | 0x2 => .ldt
  | 0x3 => .tss286Busy
  | 0x4 => .callGate286
  | 0x5 => .taskGate
  | 0x6 => .intGate286
  | 0x7 => .trapGate286
  | 0x9 => .tss386Available
  | 0xB => .tss386Busy
  | 0xC => .callGate386
  | 0xE => .intGate386
  | 0xF => .trapGate386
  | _ => .invalid

end SystemKind

/-- Descriptor types. -/
inductive SegmentKind where
  | system (kind : SystemKind)
  | data (expandDown writable accessed : Bool)
  | code (conforming readable accessed : Bool)
  deriving DecidableEq, Repr

namespace SegmentKind

/-- A part of a name, if what it says holds. -/
private def part (present : Bool) (text : String) : String :=
  if present then text else ""

/-- The printed name. -/
def name : SegmentKind → String
  | .system kind => kind.name
  | .data expandDown writable accessed =>
    (if writable then "DataReadWrite" else "DataReadOnly")
      ++ part expandDown "ExpandDown" ++ part accessed "Accessed"
  | .code conforming readable accessed =>
    "Code" ++ part conforming "Conforming" ++ "Execute" ++ part readable "Read"
      ++ part accessed "Accessed"

/-- Whether a descriptor of this type is a gate. -/
def isGate : SegmentKind → Bool
  | .system kind => kind.isGate
  | _ => false

/-- Whether a segment of this type holds code. -/
def isCode : SegmentKind → Bool
  | .code .. => true
  | _ => false

/-- The type of a code; only its low five bits count. -/
def ofCode (code : UInt8) : SegmentKind :=
  let n := code.toNat % 32
  if n < 16 then .system (SystemKind.ofCode n)
  else if n.testBit 3 then .code (n.testBit 2) (n.testBit 1) (n.testBit 0)
  else .data (n.testBit 2) (n.testBit 1) (n.testBit 0)

/-- The code of a descriptor type; reserved codes are not distinguished. -/
def typeCode : SegmentKind → UInt8
  | .system .invalid => 0x00
  | .system .tss286Available => 0x01
  | .system .ldt => 0x02
  | .system .tss286Busy => 0x03
  | .system .callGate286 => 0x04
  | .system .taskGate => 0x05
  | .system .intGate286 => 0x06
  | .system .trapGate286 => 0x07
  | .system .tss386Available => 0x09
  | .system .tss386Busy => 0x0B
  | .system .callGate386 => 0x0C
  | .system .intGate386 => 0x0E
  | .system .trapGate386 => 0x0F
  | .data expandDown writable accessed =>
    UInt8.ofNat (0x10 + 4 * expandDown.toNat + 2 * writable.toNat + accessed.toNat)
  | .code conforming readable accessed =>
    UInt8.ofNat (0x18 + 4 * conforming.toNat + 2 * readable.toNat + accessed.toNat)

@[simp] theorem ofCode_typeCode (k : SegmentKind) : ofCode k.typeCode = k := by
  rcases k with k | ⟨a, b, c⟩ | ⟨a, b, c⟩
  · cases k <;> rfl
  all_goals revert a b c; decide

end SegmentKind

/-- A slot that describes a stretch of memory. -/
structure Segment where
  kind : SegmentKind
  base : UInt32
  limit : UInt32
  big : Bool
  dpl : UInt8
  deriving DecidableEq, Repr

/-- A slot that describes an entry point. -/
structure Gate where
  kind : SegmentKind
  selector : UInt16
  offset : UInt32
  big : Bool
  dpl : UInt8
  deriving DecidableEq, Repr

/-- One slot of a descriptor table. -/
inductive Descriptor where
  | segment (s : Segment)
  | gate (g : Gate)
  deriving DecidableEq, Repr

/-- The flat form of a slot, with the fields of segments and of gates. -/
structure DescriptorRecord where
  kind : UInt8 := 0
  base : UInt32 := 0
  limit : UInt32 := 0
  selector : UInt16 := 0
  offset : UInt32 := 0
  big : Bool := false
  dpl : UInt8 := 0
  deriving DecidableEq, Repr

namespace Descriptor

/-- The type of a slot. -/
def kind : Descriptor → SegmentKind
  | .segment s => s.kind
  | .gate g => g.kind

/-- The slot a flat record describes; the privilege level has two bits. -/
def ofRecord (r : DescriptorRecord) : Descriptor :=
  let kind := SegmentKind.ofCode r.kind
  if kind.isGate then .gate ⟨kind, r.selector, r.offset, r.big, r.dpl &&& 3⟩
  else .segment ⟨kind, r.base, r.limit, r.big, r.dpl &&& 3⟩

/-- The flat record of a slot; the fields of the other kind of slot are zero. -/
def record : Descriptor → DescriptorRecord
  | .segment s =>
    { kind := s.kind.typeCode, base := s.base, limit := s.limit, big := s.big, dpl := s.dpl }
  | .gate g =>
    { kind := g.kind.typeCode, selector := g.selector, offset := g.offset, big := g.big, dpl := g.dpl }

end Descriptor

end DebugConsole
