import Mathlib.Algebra.Group.Nat.Defs
import DebugConsole.Proofs.Text.Utf8Lemmas
import DebugConsole.Wire.Shape

/-!
# Readers on written bytes

What is written at an offset is read back at that offset, whatever follows it in the message
(`Reader.Reads`). One rule for each way of reading:

- **Bytes**: `reads_take`, `reads_align`, `reads_number`, `reads_text`.
- **Sequence**: `Reads.bind`, `Reads.map`, and `ReadsBack.both` for forms of any offset.
- **Arrays**: `readsBack_items`, for elements that take at least one byte each. The length of an
  array is a number of four bytes, so the written form must be shorter than 2^32 bytes.
-/

namespace DebugConsole.Wire

variable {α β : Type}

/-! ## Numbers -/

@[simp] theorem length_littleEndian (width n : Nat) : (littleEndian width n).length = width := by
  induction width generalizing n with
  | zero => rfl
  | succ width ih => simp [littleEndian, ih]

theorem fromLittleEndian_littleEndian {width n : Nat} (h : n < 256 ^ width) :
    fromLittleEndian (littleEndian width n) = n := by
  induction width generalizing n with
  | zero =>
    have hn : n = 0 := by simpa using h
    rw [hn]
    rfl
  | succ width ih =>
    have hrest : n / 256 < 256 ^ width := by
      rw [Nat.div_lt_iff_lt_mul (by decide)]
      rwa [Nat.pow_succ] at h
    rw [littleEndian, fromLittleEndian, ih hrest, UInt8.toNat_ofNat']
    omega

@[simp] theorem Shape.length_padding (alignment offset : Nat) :
    (padding alignment offset).length = paddingLength alignment offset :=
  List.length_replicate

namespace Reader

/-- At the offset, the reader takes exactly these bytes and gets this value, whatever follows. -/
def Reads (reader : Reader α) (offset : Nat) (bytes : List UInt8) (a : α) : Prop :=
  ∀ rest, StateT.run reader ⟨offset, bytes ++ rest⟩ = .ok (a, ⟨offset + bytes.length, rest⟩)

variable {offset : Nat} {bytes bytes' : List UInt8} {a : α} {b : β}

theorem Reads.pure (a : α) (offset : Nat) : (pure a : Reader α).Reads offset [] a := by
  intro rest
  rfl

theorem Reads.bind {reader : Reader α} {f : α → Reader β} (h : reader.Reads offset bytes a)
    (hf : (f a).Reads (offset + bytes.length) bytes' b) :
    (reader >>= f).Reads offset (bytes ++ bytes') b := by
  intro rest
  rw [StateT.run_bind, List.append_assoc, h]
  show StateT.run (f a) _ = _
  rw [hf, List.length_append, Nat.add_assoc]

/-- A reader that takes no more bytes. -/
theorem Reads.bind_nil {reader : Reader α} {f : α → Reader β} (h : reader.Reads offset bytes a)
    (hf : (f a).Reads (offset + bytes.length) [] b) : (reader >>= f).Reads offset bytes b := by
  rw [← List.append_nil bytes]
  exact h.bind hf

theorem Reads.map {reader : Reader α} (f : α → β) (h : reader.Reads offset bytes a) :
    (reader >>= fun a => Pure.pure (f a)).Reads offset bytes (f a) :=
  h.bind_nil (.pure (f a) _)

/-- A message that consists of the bytes. -/
theorem Reads.run_eq {reader : Reader α} (h : reader.Reads 0 bytes a) :
    reader.run bytes = .ok a := by
  unfold Reader.run
  rw [← List.append_nil bytes, h]
  rfl

/-! ## Bytes -/

theorem reads_take (bytes : List UInt8) (offset : Nat) :
    (take bytes.length).Reads offset bytes bytes := by
  intro rest
  show take bytes.length ⟨offset, bytes ++ rest⟩ = _
  simp [take]

/-- A reader that looks where it is. -/
theorem reads_get_bind {f : Cursor → Reader α}
    (h : ∀ rest, (f ⟨offset, bytes ++ rest⟩).Reads offset bytes a) :
    (get >>= f).Reads offset bytes a := by
  intro rest
  exact h rest rest

theorem reads_align (alignment offset : Nat) :
    (align alignment).Reads offset (Shape.padding alignment offset) () := by
  have hzero : (Shape.padding alignment offset).all (· = 0) = true := by
    simp [Shape.padding]
  unfold align
  refine reads_get_bind fun rest => ?_
  have htake := reads_take (Shape.padding alignment offset) offset
  rw [Shape.length_padding] at htake
  refine htake.bind_nil ?_
  rw [hzero]
  exact .pure () _

theorem reads_number (width n : Nat) (h : n < 256 ^ width) (offset : Nat) :
    (number width).Reads offset (Shape.writeNumber width n offset) n := by
  unfold number
  refine (reads_align width offset).bind ?_
  have htake := reads_take (littleEndian width n) (offset + (Shape.padding width offset).length)
  rw [length_littleEndian] at htake
  have := htake.map fromLittleEndian
  rwa [fromLittleEndian_littleEndian h] at this

theorem reads_passOver (b : UInt8) (offset : Nat) : passOver.Reads offset [b] () := by
  intro rest
  rfl

end Reader

open Reader

theorem Shape.reads_text {s : String} (hzero : '\x00' ∉ s.toList) (offset : Nat)
    (hlength : (Utf8.encode s).length < 2 ^ 32) :
    readText.Reads offset (Shape.write .text s offset) s := by
  have hbytes : (Utf8.encode s).contains 0 = false := by
    simpa using Utf8.zero_not_mem_encode hzero
  unfold readText Shape.write
  rw [List.append_assoc]
  refine (reads_number 4 _ (by omega) offset).bind ?_
  refine (reads_take (Utf8.encode s) _).bind ?_
  simp only [hbytes, Bool.false_eq_true, if_false, Utf8.decode?_encode]
  exact (reads_passOver 0 _).bind_nil (.pure s _)

/-! ## Written forms -/

namespace Reader

/-- A written form is read wherever it stands, unless it is too long to be sent. -/
def ReadsBack (reader : Reader α) (form : Nat → List UInt8) (a : α) : Prop :=
  ∀ offset, (form offset).length < 2 ^ 32 → reader.Reads offset (form offset) a

theorem ReadsBack.map {reader : Reader α} {form : Nat → List UInt8} {a : α} (f : α → β)
    (h : ReadsBack reader form a) : ReadsBack (reader >>= fun a => pure (f a)) form (f a) :=
  fun offset hlength => (h offset hlength).map f

/-- One form after the other. -/
theorem ReadsBack.both {reader : Reader α} {f : α → Reader β} {first second : Shape}
    {v : first.Value} {w : second.Value} {a : α} {b : β} (h : ReadsBack reader (first.write v) a)
    (hf : ReadsBack (f a) (second.write w) b) :
    ReadsBack (reader >>= f) ((Shape.both first second).write (v, w)) b := by
  intro offset hlength
  simp only [Shape.write, List.length_append] at hlength
  exact (h offset (by omega)).bind (hf _ (by omega))

/-! ## Arrays -/

theorem length_le_writeItems {write : α → Nat → List UInt8} (hne : ∀ a offset, write a offset ≠ [])
    (items : List α) (offset : Nat) :
    items.length ≤ (Shape.writeItems write items offset).length := by
  induction items generalizing offset with
  | nil => simp
  | cons item rest ih =>
    have hitem : 0 < (write item offset).length := List.length_pos_iff.mpr (hne item offset)
    have hrest := ih (offset + (write item offset).length)
    simp only [Shape.writeItems, List.length_cons, List.length_append]
    omega

/-- The elements up to where the last one ends. -/
theorem reads_itemsUpTo {element : Reader α} {write : α → Nat → List UInt8} {items : List α}
    (h : ∀ item ∈ items, ReadsBack element (write item) item) (hne : ∀ a offset, write a offset ≠ [])
    {fuel : Nat} (hfuel : items.length ≤ fuel) (offset stop : Nat)
    (hstop : stop = offset + (Shape.writeItems write items offset).length)
    (hlength : (Shape.writeItems write items offset).length < 2 ^ 32) :
    (itemsUpTo element stop fuel).Reads offset (Shape.writeItems write items offset) items := by
  induction items generalizing fuel offset with
  | nil =>
    have hend : offset = stop := by rw [hstop]; rfl
    cases fuel with
    | zero =>
      refine reads_get_bind fun rest => ?_
      rw [if_pos hend]
      exact .pure [] _
    | succ fuel =>
      refine reads_get_bind fun rest => ?_
      simp only [hend, if_true]
      exact .pure [] _
  | cons item rest ih =>
    obtain ⟨fuel, rfl⟩ : ∃ n, fuel = n + 1 := ⟨fuel - 1, by simp at hfuel; omega⟩
    have hitem : 0 < (write item offset).length := List.length_pos_iff.mpr (hne item offset)
    simp only [Shape.writeItems, List.length_append] at hstop hlength ⊢
    -- The element takes up room, so the end is not reached in front of it, and not passed behind.
    have hmore : offset ≠ stop := by omega
    have hwithin : ¬ stop < offset + (write item offset).length := by omega
    unfold itemsUpTo
    refine reads_get_bind fun _ => ?_
    simp only [if_neg hmore]
    refine (h item (List.mem_cons_self ..) offset (by omega)).bind ?_
    refine reads_get_bind fun _ => ?_
    simp only [if_neg hwithin]
    have hfuel' : rest.length ≤ fuel := by simpa using hfuel
    have hrest := ih (fun item hitem => h item (List.mem_cons_of_mem _ hitem)) hfuel'
      (offset + (write item offset).length) (by omega) (by omega)
    exact hrest.map (item :: ·)

/-- An array is read back if its elements are. -/
theorem readsBack_items {element : Reader α} {write : α → Nat → List UInt8} {items : List α}
    (h : ∀ item ∈ items, ReadsBack element (write item) item) (hne : ∀ a offset, write a offset ≠ [])
    (alignment : Nat) :
    ReadsBack (Reader.items alignment element) (Shape.writeArray alignment write items) items := by
  intro offset hlength
  simp only [Shape.writeArray, List.length_append] at hlength
  have hnumber (n : Nat) : offset + (Shape.writeNumber 4 n offset).length =
      offset + paddingLength 4 offset + 4 := by
    simp [Shape.writeNumber, Nat.add_assoc]
  unfold Reader.items Shape.writeArray
  simp only [List.append_assoc]
  refine (reads_number 4 _ (by omega) offset).bind ?_
  rw [hnumber]
  refine (reads_align alignment _).bind ?_
  refine reads_get_bind fun rest => ?_
  exact reads_itemsUpTo h hne (length_le_writeItems hne items _) _ _ rfl (by omega)

end Reader

end DebugConsole.Wire
