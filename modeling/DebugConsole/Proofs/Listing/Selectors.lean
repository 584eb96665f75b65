import Mathlib.Data.List.Forall2
import DebugConsole.Host.CodeQuery
import DebugConsole.Host.Scripted
import DebugConsole.Proofs.Console.SteppingOver
import DebugConsole.Proofs.Listing.Slots

/-!
# Listed selectors

The listing of a descriptor table makes selectors, and stepping over an instruction takes them
apart. Both hold them to be the same: an index, a table and a privilege level.

- **Selectors** (`Selects`): the parts of a selector; `selectorOf` puts them together for every slot
  that a selector can name.
- **Lines** (`Shows`): the slots in use have one line each, in order, whatever is skipped.
- **Agreement** (`listed_selectors`): a selector is that of one line only, and names there the code
  that the line describes.
-/

namespace DebugConsole

/-! ## Records -/

theorem SegmentKind.isGate_of_isCode {kind : SegmentKind} (h : kind.isCode = true) :
    kind.isGate = false := by
  cases kind with
  | code => rfl
  | system | data => cases h

namespace Descriptor

variable {r : DescriptorRecord}

theorem ofRecord_of_gate (h : (SegmentKind.ofCode r.kind).isGate = true) :
    ofRecord r =
      .gate ⟨SegmentKind.ofCode r.kind, r.selector, r.offset, r.big, r.dpl &&& 3⟩ :=
  if_pos h

theorem ofRecord_of_segment (h : (SegmentKind.ofCode r.kind).isGate = false) :
    ofRecord r =
      .segment ⟨SegmentKind.ofCode r.kind, r.base, r.limit, r.big, r.dpl &&& 3⟩ :=
  if_neg (Bool.eq_false_iff.mp h)

theorem kind_ofRecord (r : DescriptorRecord) :
    (ofRecord r).kind = SegmentKind.ofCode r.kind := by
  cases hgate : (SegmentKind.ofCode r.kind).isGate with
  | true => rw [ofRecord_of_gate hgate]; rfl
  | false => rw [ofRecord_of_segment hgate]; rfl

end Descriptor

namespace Listing

/-! ## Selectors -/

/-- The parts of a selector. -/
structure Selects (table : Table) (index : Nat) (level : UInt8) (selector : UInt16) : Prop where
  index : (selector >>> 3).toNat = index
  level : (selector &&& 3).toNat = level.toNat
  table : selector &&& 4 ≠ 0 ↔ table = .localTable

theorem Selects.unique {table table' : Table} {index index' : Nat} {level level' : UInt8}
    {selector : UInt16} (h : Selects table index level selector)
    (h' : Selects table' index' level' selector) : table = table' ∧ index = index' := by
  have htable : table = .localTable ↔ table' = .localTable := h.table.symm.trans h'.table
  refine ⟨?_, h.index.symm.trans h'.index⟩
  cases table <;> cases table' <;> simp at htable ⊢

/-- The table bit of a selector. -/
def Table.bit : Table → Nat
  | .globalTable => 0
  | .localTable => 1

theorem toNat_selectorOf (table : Table) {index : Nat} {level : UInt8} (hindex : index < 8192)
    (hlevel : level.toNat < 4) :
    (selectorOf table index level).toNat = 8 * index + 4 * table.bit + level.toNat := by
  have hlow : ∀ l < 4, l ||| (if table = .localTable then 4 else 0) = 4 * table.bit + l := by
    cases table <;> decide
  have hbit : table.bit < 2 := by cases table <;> decide
  have hfields : index <<< 3 ||| level.toNat ||| (if table = .localTable then 4 else 0) =
      8 * index + 4 * table.bit + level.toNat := by
    rw [Nat.or_assoc, hlow _ hlevel, ← Nat.shiftLeft_add_eq_or_of_lt (by omega), Nat.shiftLeft_eq]
    omega
  rw [selectorOf, hfields, UInt16.toNat_ofNat']
  omega

/-- The slots that a selector can name are named by the selectors that are made for them. -/
theorem selectorOf_selects (table : Table) {index : Nat} {level : UInt8} (hindex : index < 8192)
    (hlevel : level.toNat < 4) : Selects table index level (selectorOf table index level) := by
  have hvalue := toNat_selectorOf table hindex hlevel
  refine ⟨?_, ?_, ?_⟩
  · rw [UInt16.toNat_shiftRight, hvalue, show (3 : UInt16).toNat % 16 = 3 from rfl,
      Nat.shiftRight_eq_div_pow]
    have hbit : table.bit < 2 := by cases table <;> decide
    omega
  · rw [UInt16.toNat_and, hvalue, show (3 : UInt16).toNat = 2 ^ 2 - 1 from rfl,
      Nat.and_two_pow_sub_one_eq_mod]
    omega
  · have hlocal : selectsLocal (selectorOf table index level) = true ↔ table = .localTable := by
      rw [selectsLocal_eq, hvalue, Nat.testBit_eq_decide_div_mod_eq, decide_eq_true_iff]
      cases table <;> simp [Table.bit] <;> omega
    simpa [selectsLocal] using hlocal

/-! ## Lines -/

section Lines

variable (records : Table → List DescriptorRecord)

/-- The slots of a table that comes as records. -/
def slots (table : Table) : List Descriptor :=
  (records table).map Descriptor.ofRecord

/-- The records of the slots in use, each with the index of its slot. -/
def inUse (table : Table) : List (DescriptorRecord × Nat) :=
  (records table).zipIdx.filter fun slot => SegmentKind.ofCode slot.1.kind ≠ .system .invalid

/-- How a line shows the slot of a record: a gate as a gate, and all else as a segment with the
selector that loads it. -/
inductive Shows (table : Table) (r : DescriptorRecord) (index : Nat) (line : String) : Prop where
  | gate {level : UInt8} (hgate : (SegmentKind.ofCode r.kind).isGate = true)
      (hlevel : level.toNat = r.dpl.toNat % 4)
      (hline : readLine? line =
        some (.gate ⟨SegmentKind.ofCode r.kind, r.selector, r.offset, r.big, level⟩))
  | segment {level : UInt8} {selector : UInt16}
      (hsegment : (SegmentKind.ofCode r.kind).isGate = false)
      (hlevel : level.toNat = r.dpl.toNat % 4)
      (hline : readLine? line =
        some (.segment selector ⟨SegmentKind.ofCode r.kind, r.base, r.limit, r.big, level⟩))
      (hselector : index < 8192 → Selects table index level selector)

theorem descriptor_shows (table : Table) (r : DescriptorRecord) (index : Nat) :
    Shows table r index (descriptor table index (.ofRecord r)) := by
  have hlevel : (r.dpl &&& 3).toNat = r.dpl.toNat % 4 := by
    rw [UInt8.toNat_and]
    exact Nat.and_two_pow_sub_one_eq_mod r.dpl.toNat 2
  cases hgate : (SegmentKind.ofCode r.kind).isGate with
  | true =>
    rw [Descriptor.ofRecord_of_gate hgate]
    exact .gate hgate hlevel (readLine?_gate ..)
  | false =>
    rw [Descriptor.ofRecord_of_segment hgate]
    refine .segment hgate hlevel (readLine?_segment ..) fun hindex => ?_
    exact selectorOf_selects table hindex (by rw [hlevel]; omega)

theorem descriptors_lines (table : Table) :
    List.Forall₂ (fun slot line => line = descriptor table slot.2 (.ofRecord slot.1))
      (inUse records table) (descriptors table (slots records table)) := by
  have hlines : descriptors table (slots records table) =
      (inUse records table).map fun slot => descriptor table slot.2 (.ofRecord slot.1) := by
    rw [descriptors, slots, List.zipIdx_map, List.filter_map, List.map_map, inUse]
    simp [Function.comp_def, Descriptor.kind_ofRecord]
  rw [hlines, List.forall₂_map_right_iff, List.forall₂_same]
  exact fun _ _ => rfl

theorem descriptors_show (table : Table) :
    List.Forall₂ (fun slot line => Shows table slot.1 slot.2 line) (inUse records table)
      (descriptors table (slots records table)) := by
  refine (descriptors_lines records table).imp fun slot line hline => ?_
  rw [hline]
  exact descriptor_shows table slot.1 slot.2

/-- The line with number `n` of the listing shows a selector, for a slot that a selector can
name. -/
structure ShowsSelector (table : Table) (n : Nat) (slot : DescriptorRecord × Nat) (line : String)
    (selector : UInt16) : Prop where
  slot_eq : (inUse records table)[n]? = some slot
  line_eq : (descriptors table (slots records table))[n]? = some line
  index_lt : slot.2 < 8192
  reads : ∃ s, readLine? line = some (.segment selector s)

variable {records} {table : Table} {n : Nat} {slot : DescriptorRecord × Nat} {line : String}
  {selector : UInt16}

theorem nodup_inUse (records : Table → List DescriptorRecord) (table : Table) :
    ((inUse records table).map (·.2)).Nodup := by
  refine List.Nodup.sublist (List.Sublist.map _ List.filter_sublist) ?_
  rw [List.zipIdx_map_snd]
  exact List.nodup_range'

/-- A slot is listed once. -/
theorem inUse_unique {n' : Nat} {slot' : DescriptorRecord × Nat}
    (h : (inUse records table)[n]? = some slot) (h' : (inUse records table)[n']? = some slot')
    (hindex : slot.2 = slot'.2) : n = n' := by
  have hlt : n < ((inUse records table).map (·.2)).length := by
    rw [List.length_map]
    exact (List.getElem?_eq_some_iff.mp h).1
  refine (List.getElem?_inj hlt (nodup_inUse records table)).mp ?_
  rw [List.getElem?_map, List.getElem?_map, h, h', Option.map_some, Option.map_some, hindex]

namespace ShowsSelector

theorem line_shows (h : ShowsSelector records table n slot line selector) :
    line = descriptor table slot.2 (.ofRecord slot.1) := by
  have hzip := List.getElem?_zip_eq_some (z := (slot, line)).mpr ⟨h.slot_eq, h.line_eq⟩
  exact (List.forall₂_iff_zip.mp (descriptors_lines records table)).2 (List.mem_of_getElem? hzip)

theorem slots_getElem? (h : ShowsSelector records table n slot line selector) :
    (slots records table)[slot.2]? = some (.ofRecord slot.1) := by
  have hused := List.mem_of_getElem? h.slot_eq
  have hrecord : (records table)[slot.2]? = some slot.1 :=
    List.mem_zipIdx_iff_getElem?.mp (List.mem_of_mem_filter hused)
  rw [slots, List.getElem?_map, hrecord, Option.map_some]

theorem selects (h : ShowsSelector records table n slot line selector) :
    ∃ level, Selects table slot.2 level selector := by
  have hshows := descriptor_shows table slot.1 slot.2
  obtain ⟨s, hreads⟩ := h.reads
  rw [← h.line_shows] at hshows
  cases hshows with
  | gate _ _ hline =>
    rw [hline] at hreads
    cases hreads
  | segment _ _ hline hselector =>
    rw [hline] at hreads
    cases hreads
    exact ⟨_, hselector h.index_lt⟩

/-- The size of the code in the slot is the one that the line says. -/
theorem codeSize_slot (h : ShowsSelector records table n slot line selector)
    (hcode : (SegmentKind.ofCode slot.1.kind).isCode = true) :
    ∃ size, ((slots records table)[slot.2]?).bind CodeSize.ofSlot = some size ∧
      (size = .bits32 ↔ "32-bit" ∈ Text.words line) ∧
      (size = .bits16 ↔ "16-bit" ∈ Text.words line) := by
  have hsegment := Descriptor.ofRecord_of_segment (SegmentKind.isGate_of_isCode hcode)
  have hsays : ∀ big, (CodeSize.ofBig big = .bits32 ↔ "32-bit" = sizeText big) ∧
      (CodeSize.ofBig big = .bits16 ↔ "16-bit" = sizeText big) := by
    decide
  have hslot := h.slots_getElem?
  rw [hsegment] at hslot
  refine ⟨CodeSize.ofBig slot.1.big, ?_, ?_⟩
  · simp [hslot, CodeSize.ofSlot, hcode]
  · rw [h.line_shows, hsegment, mem_words_segment (by decide), mem_words_segment (by decide)]
    exact hsays slot.1.big

end ShowsSelector

end Lines

/-! ## Code sizes -/

namespace Table

/-- The request for the slots of a table. -/
def request : Table → Request
  | .globalTable => .globalTable
  | .localTable => .localTable

/-- What the host says when it is asked for a table. -/
def reply {σ : Type} (host : Host σ) (x : σ) : Table → Except HostFailure (List Descriptor)
  | .globalTable => (host .globalTable x).1
  | .localTable => (host .localTable x).1

end Table

section CodeSizes

variable {σ : Type} (host : Host σ) (x : σ)

/-- A query of one request. -/
theorem converse_ask {α : Type} (r : Request) (f : r.Reply → α) :
    let c := (do return f (← Query.ask r) : Query α).run.converse host x
    c.requests = [r] ∧ c.value = (host r x).1.map f := by
  intro c
  have hquery : (do return f (← Query.ask r) : Query α).run =
      .ask r fun reply => .done (reply.map f) := by
    refine congrArg (Dialogue.ask r) (funext fun reply => ?_)
    cases reply <;> rfl
  have hc : c = ⟨(host r x).1.map f, [⟨r, (host r x).1⟩], (host r x).2⟩ := by
    show Dialogue.converse host _ x = _
    rw [hquery]
    rfl
  rw [hc]
  exact ⟨rfl, rfl⟩

/-- The code size behind a selector is asked of its table only, and is that of its slot. -/
theorem Selects.codeSize {table : Table} {index : Nat} {level : UInt8} {selector : UInt16}
    (h : Selects table index level selector) (fallback : CodeSize) :
    let c := (Query.codeSize selector fallback).run.converse host x
    c.requests = [table.request] ∧
      c.value = (table.reply host x).map fun slots =>
        ((slots[index]?).bind CodeSize.ofSlot).getD fallback := by
  have hlocal : selectsLocal selector = true ↔ table = .localTable := by
    simpa [selectsLocal] using h.table
  rw [← h.index, Query.codeSize, Query.table]
  cases table with
  | globalTable =>
    have hglobal : selectsLocal selector = false := by simpa using hlocal
    rw [hglobal]
    exact converse_ask host x .globalTable fun slots => CodeSize.ofSelector slots selector fallback
  | localTable =>
    rw [hlocal.mpr rfl]
    exact converse_ask host x .localTable fun slots => CodeSize.ofSelector slots selector fallback

end CodeSizes

/-! ## Agreement -/

/-- The listing of a table has a line for every slot in use, in order: gates are shown as gates, and
all else as segments. The selector of a slot that a selector can name is made of the index of the
slot, its table and its privilege level, so no two lines of either table show the same one. Where
the slot holds code, the size of the code that the selector names is asked of that table, and is the
one that the line says, whatever the fallback. -/
theorem listed_selectors (records : Table → List DescriptorRecord) :
    (∀ table, List.Forall₂ (fun slot line => Shows table slot.1 slot.2 line) (inUse records table)
      (descriptors table (slots records table))) ∧
    (∀ table n slot line table' n' slot' line' selector,
      ShowsSelector records table n slot line selector →
      ShowsSelector records table' n' slot' line' selector → table = table' ∧ n = n') ∧
    ∀ table n slot line selector, ShowsSelector records table n slot line selector →
      (SegmentKind.ofCode slot.1.kind).isCode = true →
      ∀ (σ : Type) (host : Host σ) (x : σ) (fallback : CodeSize),
        let c := (Query.codeSize selector fallback).run.converse host x
        c.requests = [table.request] ∧
        (table.reply host x = .ok (slots records table) →
          ∃ size, c.value = .ok size ∧ (size = .bits32 ↔ "32-bit" ∈ Text.words line) ∧
            (size = .bits16 ↔ "16-bit" ∈ Text.words line)) := by
  refine ⟨descriptors_show records, ?_, ?_⟩
  · intro table n slot line table' n' slot' line' selector h h'
    obtain ⟨level, hselects⟩ := h.selects
    obtain ⟨level', hselects'⟩ := h'.selects
    obtain ⟨rfl, hindex⟩ := hselects.unique hselects'
    exact ⟨rfl, inUse_unique h.slot_eq h'.slot_eq hindex⟩
  · intro table n slot line selector h hcode σ host x fallback
    obtain ⟨level, hselects⟩ := h.selects
    obtain ⟨hrequests, hvalue⟩ := hselects.codeSize host x fallback
    obtain ⟨size, hslot, hsays⟩ := h.codeSize_slot hcode
    refine ⟨hrequests, fun hreply => ⟨size, ?_, hsays⟩⟩
    rw [hvalue, hreply, Except.map, hslot, Option.getD_some]

/-- The second slot of both tables: 32-bit code with a privilege level of more than two bits, and
16-bit code. -/
theorem listed_selectors_code :
    let code : DescriptorRecord := { kind := 0x1A, limit := 0xFFFF, big := true, dpl := 7 }
    let code16 : DescriptorRecord := { kind := 0x18, dpl := 4 }
    let records : Table → List DescriptorRecord
      | .globalTable => [{}, code]
      | .localTable => [{ kind := 0x0C }, code16]
    let host : ScriptedHost :=
      { globalTable := records .globalTable, localTable := records .localTable }
    let line := "000B CodeExecuteRead base 00000000 limit 0000FFFF 32-bit DPL 3"
    let c := (Query.codeSize 0x0B .bits16).run.converse ScriptedHost.answer host
    ShowsSelector records .globalTable 0 (code, 1) line 0x0B ∧
      ¬ ShowsSelector records .localTable 1 (code16, 1)
        "000C CodeExecute base 00000000 limit 00000000 16-bit DPL 0" 0x0B ∧
      c.requests = [.globalTable] ∧ c.value = .ok .bits32 := by
  intro code code16 records host line c
  obtain ⟨-, hunique, hsize⟩ := listed_selectors records
  have hshows : ShowsSelector records .globalTable 0 (code, 1) line 0x0B := by
    refine ⟨by decide +kernel, by decide +kernel, by decide, ?_⟩
    exact ⟨⟨.code false true false, 0, 0xFFFF, true, 3⟩, by decide +kernel⟩
  obtain ⟨hrequests, hvalue⟩ :=
    hsize _ _ _ _ _ hshows (by decide) ScriptedHost ScriptedHost.answer host .bits16
  obtain ⟨size, hc, h32, -⟩ := hvalue rfl
  have hsays : "32-bit" ∈ Text.words line := by decide +kernel
  refine ⟨hshows, fun h => ?_, hrequests, ?_⟩
  · exact absurd (hunique _ _ _ _ _ _ _ _ _ hshows h).1 (by decide)
  · rw [← h32.mpr hsays]
    exact hc

end Listing

end DebugConsole
