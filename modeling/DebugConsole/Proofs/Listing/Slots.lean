import DebugConsole.Listing
import DebugConsole.Proofs.Command.OperandLemmas

/-!
# Descriptor listings read back

A line of a descriptor listing says all there is to say of its slot.

- **Lines** (`Line`, `readLine?`): what a line says, read from its words.
- **Types** (`SegmentKind.ofName?_name`): no two types of descriptors have one name.
- **Reading back** (`readLine?_segment`, `readLine?_gate`): every printed slot is read back, and a
  segment with the selector that was printed for it.
-/

namespace DebugConsole

/-! ## Types -/

namespace SegmentKind

/-- The type with a printed name. -/
def ofName? (name : String) : Option SegmentKind :=
  ((List.range 32).map fun code => ofCode (UInt8.ofNat code)).find? (·.name == name)

/-- What holds of every code's type holds of every type. -/
theorem forall_of_codes {P : SegmentKind → Prop} (h : ∀ code < 32, P (ofCode (UInt8.ofNat code)))
    (kind : SegmentKind) : P kind := by
  have hcode : kind.typeCode.toNat < 32 := by
    rcases kind with k | ⟨a, b, c⟩ | ⟨a, b, c⟩
    · cases k <;> decide
    all_goals revert a b c; decide
  have hkind := h kind.typeCode.toNat hcode
  rwa [UInt8.ofNat_toNat, ofCode_typeCode] at hkind

theorem ofName?_name : ∀ kind : SegmentKind, ofName? kind.name = some kind :=
  forall_of_codes (by decide +kernel)

theorem isAlphanum_of_mem_name (kind : SegmentKind) :
    ∀ c ∈ kind.name.toList, c.isAlphanum = true := by
  have hall : ∀ kind : SegmentKind, kind.name.toList.all Char.isAlphanum = true :=
    forall_of_codes (by decide +kernel)
  exact List.all_eq_true.mp (hall kind)

theorem isWord_name (kind : SegmentKind) : Text.IsWord kind.name := by
  refine ⟨?_, fun h => absurd (kind.isAlphanum_of_mem_name _ h) (by decide)⟩
  revert kind
  exact forall_of_codes (by decide +kernel)

end SegmentKind

namespace Listing

/-! ## Lines -/

/-- What a line of a descriptor listing says. -/
inductive Line where
  | segment (selector : UInt16) (s : Segment)
  | gate (g : Gate)
  deriving DecidableEq, Repr

/-- Whether the printed size is that of 32-bit code. -/
def readBig? (size : String) : Option Bool :=
  if size = "32-bit" then some true else if size = "16-bit" then some false else none

/-- A privilege level, in decimal. -/
def readLevel? (level : String) : Option UInt8 :=
  (Text.readUnsigned 10 UInt8.size level).toOption.map UInt8.ofNat

/-- Four hexadecimal digits. -/
def readWord? (digits : String) : Option UInt16 :=
  (Text.readHex32 digits.toList).map UInt32.toUInt16

/-- What a line says, by its words. A gate shows where it leads in one of them. -/
def readLine? (line : String) : Option Line :=
  match Text.words line with
  | [selector, kind, "base", base, "limit", limit, size, "DPL", level] => do
    let s : Segment := ⟨← SegmentKind.ofName? kind, ← Text.readHex32 base.toList,
      ← Text.readHex32 limit.toList, ← readBig? size, ← readLevel? level⟩
    return .segment (← readWord? selector) s
  | [kind, target, size, "DPL", level] => do
    let (selector, offset) ← Operand.splitColon? target
    return .gate ⟨← SegmentKind.ofName? kind, ← readWord? selector, ← Text.readHex32 offset.toList,
      ← readBig? size, ← readLevel? level⟩
  | _ => none

/-! ## Words -/

/-- The printed size of a slot. -/
def sizeText (big : Bool) : String :=
  if big then "32-bit" else "16-bit"

theorem readBig?_sizeText : ∀ big, readBig? (sizeText big) = some big := by
  decide

theorem readWord?_hex (n : UInt16) : readWord? (Text.hex 4 n.toNat) = some n := by
  rw [readWord?, Text.readHex32_word, Option.map_some, UInt16.toUInt16_toUInt32]

theorem readLevel?_toString (level : UInt8) : readLevel? (toString level.toNat) = some level := by
  rw [readLevel?, Text.readUnsigned_toString level.toNat_lt, Except.toOption, Option.map_some,
    UInt8.ofNat_toNat]

theorem isWord_sizeText : ∀ big, Text.IsWord (sizeText big) := by
  decide

/-- The words of a segment's line. -/
def segmentWords (table : Table) (index : Nat) (s : Segment) : List String :=
  [Text.hex 4 (selectorOf table index s.dpl).toNat, s.kind.name, "base", Text.hex 8 s.base.toNat,
    "limit", Text.hex 8 s.limit.toNat, sizeText s.big, "DPL", toString s.dpl.toNat]

/-- The words of a gate's line. -/
def gateWords (g : Gate) : List String :=
  [g.kind.name, (Address.mk g.selector g.offset).text, sizeText g.big, "DPL",
    toString g.dpl.toNat]

theorem words_segment (table : Table) (index : Nat) (s : Segment) :
    Text.words (descriptor table index (.segment s)) = segmentWords table index s := by
  have hline : descriptor table index (.segment s) =
      " ".intercalate (segmentWords table index s) := by
    show Text.hex 4 (selectorOf table index s.dpl).toNat ++ " " ++ s.kind.name ++ " base " ++
      Text.hex 8 s.base.toNat ++ " limit " ++ Text.hex 8 s.limit.toNat ++ " " ++
      (sizeText s.big ++ " DPL " ++ toString s.dpl.toNat) = _
    rw [← String.toList_inj]
    simp [segmentWords]
  have hword (n : Nat) := Text.isWord_hex (by decide : 4 ≠ 0) n
  have hlong (n : Nat) := Text.isWord_hex (by decide : 8 ≠ 0) n
  rw [hline]
  refine Text.words_intercalate (List.cons_ne_nil _ _) ?_
  simp only [segmentWords, List.forall_mem_cons]
  exact ⟨hword _, s.kind.isWord_name, by decide, hlong _, by decide, hlong _, isWord_sizeText _,
    by decide, Text.isWord_toString _, List.forall_mem_nil _⟩

theorem words_gate (table : Table) (index : Nat) (g : Gate) :
    Text.words (descriptor table index (.gate g)) = gateWords g := by
  have hline : descriptor table index (.gate g) = " ".intercalate (gateWords g) := by
    show g.kind.name ++ " " ++ Text.hex 4 g.selector.toNat ++ ":" ++ Text.hex 8 g.offset.toNat ++
      " " ++ (sizeText g.big ++ " DPL " ++ toString g.dpl.toNat) = _
    rw [← String.toList_inj]
    simp [gateWords, Address.text]
  rw [hline]
  refine Text.words_intercalate (List.cons_ne_nil _ _) ?_
  simp only [gateWords, List.forall_mem_cons]
  exact ⟨g.kind.isWord_name, Address.isWord_text _, isWord_sizeText _, by decide, Text.isWord_toString _,
    List.forall_mem_nil _⟩

/-- The words of a segment's line that have a dash say the size. -/
theorem mem_words_segment {word : String} (hdash : '-' ∈ word.toList) (table : Table) (index : Nat)
    (s : Segment) :
    word ∈ Text.words (descriptor table index (.segment s)) ↔ word = sizeText s.big := by
  have hother {other : String} (h : '-' ∉ other.toList) : word ≠ other := by
    rintro rfl
    exact h hdash
  have hhex (width n : Nat) : word ≠ Text.hex width n := by
    refine hother fun h => ?_
    rw [Text.hex, String.toList_ofList] at h
    exact Text.forall_mem_hexDigits (P := (· ≠ '-')) (by decide) width n _ h rfl
  have hname : word ≠ s.kind.name :=
    hother fun h => absurd (s.kind.isAlphanum_of_mem_name _ h) (by decide)
  have hlevel : word ≠ toString s.dpl.toNat :=
    hother fun h => absurd (Text.isDigit_of_mem_toString h) (by decide)
  have hbase : word ≠ "base" := hother (by decide)
  have hlimit : word ≠ "limit" := hother (by decide)
  have hdpl : word ≠ "DPL" := hother (by decide)
  simp only [words_segment, segmentWords, List.mem_cons, hhex, hname, hbase, hlimit, hdpl, hlevel, false_or,
    List.not_mem_nil, or_false]

/-! ## Reading back -/

/-- A printed segment is read back, with the selector that was printed for it. -/
theorem readLine?_segment (table : Table) (index : Nat) (s : Segment) :
    readLine? (descriptor table index (.segment s)) =
      some (.segment (selectorOf table index s.dpl) s) := by
  simp only [readLine?, words_segment, segmentWords, SegmentKind.ofName?_name, Text.readHex32_long,
    readBig?_sizeText, readLevel?_toString, readWord?_hex, Option.bind_eq_bind, Option.bind_some]
  rfl

/-- A printed gate is read back. -/
theorem readLine?_gate (table : Table) (index : Nat) (g : Gate) :
    readLine? (descriptor table index (.gate g)) = some (.gate g) := by
  simp only [readLine?, words_gate, gateWords, SegmentKind.ofName?_name, Operand.splitColon?_text,
    Text.readHex32_long, readBig?_sizeText, readLevel?_toString, readWord?_hex,
    Option.bind_eq_bind, Option.bind_some]
  rfl

end Listing

end DebugConsole
