import DebugConsole.Proofs.Wire.Reads
import DebugConsole.Wire.Marshal

/-!
# Values on the wire, there and back

- **Shapes** (`Shape.readsBack`): a written value is read back if its texts are free of zero
  characters (`Shape.NulFree`) and the elements of its arrays take up room (`Shape.Solid`).
- **Machine values** (`Marshal.Carried`): values that their shape can carry. Addresses, breakpoints,
  registers and snapshots are carried as they are; a descriptor must come from a record, as its
  privilege level has two bits.
-/

namespace DebugConsole.Wire

open Reader

/-! ## Shapes -/

namespace Shape

/-- Every value takes at least one byte. -/
def Solid : Shape → Prop
  | .unit => False
  | .byte | .boolean | .int16 | .uint16 | .int32 | .uint32 | .text | .array _ => True
  | .struct fields => fields.Solid
  | .both first second => first.Solid ∨ second.Solid

/-- The elements of every array take up room. -/
def SolidArrays : Shape → Prop
  | .unit | .byte | .boolean | .int16 | .uint16 | .int32 | .uint32 | .text => True
  | .array element => element.Solid ∧ element.SolidArrays
  | .struct fields => fields.SolidArrays
  | .both first second => first.SolidArrays ∧ second.SolidArrays

/-- No text of the value contains a zero character. -/
def NulFree : (s : Shape) → s.Value → Prop
  | .unit, _ | .byte, _ | .boolean, _ | .int16, _ | .uint16, _ | .int32, _ | .uint32, _ => True
  | .text, s => '\x00' ∉ s.toList
  | .array element, items => ∀ item ∈ items, element.NulFree item
  | .struct fields, v => fields.NulFree v
  | .both first second, (v, w) => first.NulFree v ∧ second.NulFree w

theorem writeNumber_ne_nil {width : Nat} (h : width ≠ 0) (n offset : Nat) :
    writeNumber width n offset ≠ [] := by
  intro hnil
  have hlength := congrArg List.length hnil
  simp only [writeNumber, List.length_append, length_littleEndian, List.length_nil] at hlength
  omega

theorem write_ne_nil {s : Shape} (h : s.Solid) (v : s.Value) (offset : Nat) :
    s.write v offset ≠ [] := by
  induction s generalizing offset with
  | unit => cases h
  | byte => simp [write]
  | boolean | int16 | uint16 | int32 | uint32 => exact writeNumber_ne_nil (by decide) _ _
  | text => simp [write]
  | array element ih =>
    simp only [write, writeArray, ne_eq, List.append_eq_nil_iff, not_and]
    intro hnil
    exact absurd hnil.1 (writeNumber_ne_nil (by decide) _ _)
  | struct fields ih =>
    simp only [write, ne_eq, List.append_eq_nil_iff, not_and]
    exact fun _ => ih h v _
  | both first second ihf ihs =>
    obtain ⟨v, w⟩ := v
    simp only [write, ne_eq, List.append_eq_nil_iff, not_and]
    rcases h with h | h
    · exact fun hnil => absurd hnil (ihf h v _)
    · exact fun _ => ihs h w _

theorem paddingLength_one (offset : Nat) : paddingLength 1 offset = 0 :=
  Nat.mod_one _

/-- A written value is read back. -/
theorem readsBack {s : Shape} (hs : s.SolidArrays) {v : s.Value} (hv : s.NulFree v) :
    ReadsBack s.read (s.write v) v := by
  induction s with
  | unit => exact fun offset _ => .pure () offset
  | byte =>
    intro offset _
    have hnumber : write .byte v offset = writeNumber 1 v.toNat offset := by
      simp [write, writeNumber, padding, paddingLength_one, littleEndian]
    have := (reads_number 1 _ v.toNat_lt offset).map UInt8.ofNat
    rwa [← hnumber, UInt8.ofNat_toNat] at this
  | boolean =>
    intro offset _
    refine (reads_number 4 v.toNat (by cases v <;> decide) offset).bind_nil ?_
    cases v with
    | false => exact .pure false _
    | true => exact .pure true _
  | int16 =>
    intro offset _
    have := (reads_number 2 _ v.toUInt16.toNat_lt offset).map
      fun n => (UInt16.ofNat n).toInt16
    rwa [UInt16.ofNat_toNat, Int16.toInt16_toUInt16] at this
  | uint16 =>
    intro offset _
    have := (reads_number 2 _ v.toNat_lt offset).map UInt16.ofNat
    rwa [UInt16.ofNat_toNat] at this
  | int32 =>
    intro offset _
    have := (reads_number 4 _ v.toUInt32.toNat_lt offset).map
      fun n => (UInt32.ofNat n).toInt32
    rwa [UInt32.ofNat_toNat, Int32.toInt32_toUInt32] at this
  | uint32 =>
    intro offset _
    have := (reads_number 4 _ v.toNat_lt offset).map UInt32.ofNat
    rwa [UInt32.ofNat_toNat] at this
  | text =>
    intro offset hlength
    refine reads_text hv offset ?_
    simp only [write, List.length_append] at hlength
    omega
  | array element ih =>
    exact readsBack_items (fun item hitem => ih hs.2 (hv item hitem)) (write_ne_nil hs.1) _
  | struct fields ih =>
    intro offset hlength
    simp only [write, List.length_append] at hlength
    refine (reads_align 8 offset).bind ?_
    rw [length_padding]
    exact ih hs hv _ (by omega)
  | both first second ihf ihs =>
    obtain ⟨v, w⟩ := v
    exact (ihf hs.1 hv.1).both ((ihs hs.2 hv.2).map fun w => (v, w))

end Shape

/-! ## Machine values -/

namespace Marshal

/-- A type whose values and arrays can be read from the wire. -/
class Solid (α : Type) [Marshal α] : Prop where
  solid : (shape α).Solid
  arrays : (shape α).SolidArrays

/-- The shape of the type can carry the value. -/
structure Carried {α : Type} [Marshal α] (a : α) : Prop where
  ofValue : Marshal.ofValue (toValue a) = .ok a
  nulFree : (shape α).NulFree (toValue a)

variable {α : Type} [Marshal α] [Solid α]

theorem Carried.readsBack {a : α} (h : Carried a) : ReadsBack (read α) (write a) a := by
  intro offset hlength
  refine (Shape.readsBack Solid.arrays h.nulFree offset hlength).bind_nil ?_
  rw [h.ofValue]
  exact .pure a _

theorem readsBack_list {items : List α} (h : ∀ a ∈ items, Carried a) :
    ReadsBack (readList α) (writeList items) items :=
  readsBack_items (fun a ha => (h a ha).readsBack) (fun _ => Shape.write_ne_nil Solid.solid _) _

end Marshal

instance : Marshal.Solid UInt8 := ⟨trivial, trivial⟩

instance : Marshal.Solid Address := ⟨.inl trivial, trivial, trivial⟩

instance : Marshal.Solid Register := ⟨trivial, trivial⟩

instance : Marshal.Solid Breakpoint :=
  ⟨.inl (.inl trivial), ⟨trivial, trivial⟩, trivial, trivial, trivial⟩

instance : Marshal.Solid AssemblyLine := ⟨.inl (.inl trivial), ⟨trivial, trivial⟩, trivial⟩

instance : Marshal.Solid Descriptor :=
  ⟨.inl trivial, trivial, trivial, trivial, trivial, trivial, trivial, trivial⟩

instance : Marshal.Solid Registers := ⟨.inl trivial, by simp [Marshal.shape, Shape.SolidArrays]⟩

theorem carried_byte (b : UInt8) : Marshal.Carried b := ⟨rfl, trivial⟩

theorem carried_address (a : Address) : Marshal.Carried a := by
  refine ⟨?_, trivial, trivial⟩
  show Except.ok (⟨a.segment.toInt16.toUInt16, a.offset.toInt32.toUInt32⟩ : Address) = _
  rw [UInt16.toUInt16_toInt16, UInt32.toUInt32_toInt32]

theorem carried_register (r : Register) : Marshal.Carried r := by
  refine ⟨?_, trivial⟩
  simp [Marshal.ofValue, Marshal.toValue]

theorem carried_breakpointKind (k : BreakpointKind) : Marshal.Carried k := by
  refine ⟨?_, trivial⟩
  simp [Marshal.ofValue, Marshal.toValue]

theorem carried_breakpoint (b : Breakpoint) : Marshal.Carried b := by
  have hkind := carried_breakpointKind b.kind
  refine ⟨?_, (carried_address b.address).nulFree, hkind.nulFree, trivial, trivial⟩
  show (do
    let address ← Marshal.ofValue (Marshal.toValue b.address)
    let kind ← Marshal.ofValue (Marshal.toValue b.kind)
    return (⟨address, kind, b.ah, b.al⟩ : Breakpoint)) = _
  rw [(carried_address b.address).ofValue, hkind.ofValue]
  rfl

theorem carried_assemblyLine {a : AssemblyLine} (h : '\x00' ∉ a.text.toList) :
    Marshal.Carried a := by
  refine ⟨?_, (carried_address a.address).nulFree, h⟩
  show (Marshal.ofValue (Marshal.toValue a.address) >>= _) = _
  rw [(carried_address a.address).ofValue]
  rfl

theorem carried_registers (r : Registers) : Marshal.Carried r :=
  ⟨rfl, by simp [Marshal.shape, Shape.NulFree, Marshal.toValue]⟩

/-- A descriptor that comes from a record is the one that its own record describes. -/
theorem ofRecord_record_ofRecord (r : DescriptorRecord) :
    Descriptor.ofRecord (Descriptor.ofRecord r).record = Descriptor.ofRecord r := by
  have hdpl : r.dpl &&& 3 &&& 3 = r.dpl &&& 3 := by
    rw [UInt8.and_assoc]
    rfl
  unfold Descriptor.ofRecord
  cases hgate : (SegmentKind.ofCode r.kind).isGate with
  | true => simp [Descriptor.record, hdpl, hgate]
  | false => simp [Descriptor.record, hdpl, hgate]

theorem carried_descriptor (r : DescriptorRecord) : Marshal.Carried (Descriptor.ofRecord r) := by
  refine ⟨?_, trivial, trivial, trivial, trivial, trivial, trivial, trivial⟩
  show Except.ok (Descriptor.ofRecord (Descriptor.ofRecord r).record) = _
  rw [ofRecord_record_ofRecord]

end DebugConsole.Wire
