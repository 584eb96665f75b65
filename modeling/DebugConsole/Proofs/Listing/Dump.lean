import Mathlib.Data.List.Forall2
import DebugConsole.Listing
import DebugConsole.Proofs.Text.Tokens

/-!
# Memory dumps by their columns

A dump has a row for every sixteen bytes, and a row is divided by its columns: the address, the
bytes in hexadecimal, and the bytes as characters (`RowShows`).

- **Rows** (`memory_eq`): which bytes a row shows, and the address it starts with (`dumpRows`).
- **Columns** (`memoryRow_shows`): the fields start at the same column in every row, however few
  bytes a row has.
- **Bytes** (`hexPairs`): the bytes of a row are read back from its hexadecimal field.
-/

namespace DebugConsole

theorem Address.advance_eq (a : Address) (n : Nat) :
    a.advance n = ⟨a.segment, UInt32.ofNat ((a.offset.toNat + n) % 2 ^ 32)⟩ := by
  have hoffset : a.offset + UInt32.ofNat n = UInt32.ofNat ((a.offset.toNat + n) % 2 ^ 32) := by
    rw [← UInt32.toNat_inj]
    simp
  rw [advance, hoffset]

namespace Listing

/-! ## Rows -/

/-- The rows of a dump: the address that each starts with, and up to sixteen bytes. Offsets wrap at
2^32. -/
def dumpRows (a : Address) (bytes : List UInt8) : List (Address × List UInt8) :=
  (List.range ((bytes.length + 15) / 16)).map fun k =>
    (⟨a.segment, UInt32.ofNat ((a.offset.toNat + 16 * k) % 2 ^ 32)⟩, (bytes.drop (16 * k)).take 16)

theorem rows_eq_cons {bytes : List UInt8} (h : bytes ≠ []) :
    rows bytes = bytes.take rowLength :: rows (bytes.drop rowLength) := by
  cases bytes with
  | nil => exact absurd rfl h
  | cons b rest =>
    rw [rows]
    rfl

theorem rows_eq (bytes : List UInt8) :
    rows bytes =
      (List.range ((bytes.length + 15) / 16)).map fun k => (bytes.drop (16 * k)).take 16 := by
  induction bytes using rows.induct with
  | case1 => simp [rows]
  | case2 b rest ih =>
    have hcount : ((b :: rest).length + 15) / 16 =
        ((rest.drop (rowLength - 1)).length + 15) / 16 + 1 := by
      simp only [rowLength, List.length_cons, List.length_drop]
      omega
    rw [rows, ih, hcount, List.range_succ_eq_map, List.map_cons, List.map_map]
    refine congrArg (List.cons _) (List.map_congr_left fun k _ => ?_)
    have hdrop : 16 * (k + 1) = 16 * k + 15 + 1 := by omega
    simp only [Function.comp_apply, Nat.succ_eq_add_one, hdrop, List.drop_succ_cons, List.drop_drop,
      rowLength]
    rw [Nat.add_comm]

theorem flatten_rows (bytes : List UInt8) : (rows bytes).flatten = bytes := by
  induction bytes using rows.induct with
  | case1 => simp [rows]
  | case2 b rest ih =>
    rw [rows_eq_cons (List.cons_ne_nil b rest), List.flatten_cons]
    exact (congrArg _ ih).trans (List.take_append_drop rowLength (b :: rest))

theorem map_snd_dumpRows (a : Address) (bytes : List UInt8) :
    (dumpRows a bytes).map (·.2) = rows bytes := by
  rw [rows_eq, dumpRows, List.map_map]
  rfl

/-- The rows of a dump hold all the bytes, in order. -/
theorem flatMap_snd_dumpRows (a : Address) (bytes : List UInt8) :
    (dumpRows a bytes).flatMap (·.2) = bytes := by
  rw [List.flatMap_def, map_snd_dumpRows, flatten_rows]

theorem memory_eq (a : Address) (bytes : List UInt8) :
    memory a bytes = (dumpRows a bytes).map fun row => memoryRow row.1 row.2 := by
  refine List.ext_getElem ?_ fun k hk hk' => ?_
  · simp [memory, dumpRows, rows_eq]
  · simp [memory, dumpRows, rows_eq, Address.advance_eq, rowLength]

theorem dumpRows_bounds {a : Address} {bytes : List UInt8} {row : Address × List UInt8}
    (h : row ∈ dumpRows a bytes) : row.2 ≠ [] ∧ row.2.length ≤ 16 := by
  simp only [dumpRows, List.mem_map, List.mem_range] at h
  obtain ⟨k, hk, rfl⟩ := h
  refine ⟨?_, List.length_take_le 16 _⟩
  rw [← List.length_pos_iff, List.length_take, List.length_drop]
  omega

/-! ## Columns -/

/-- Some characters of a line, from a column on. -/
def columns (start width : Nat) (line : String) : String :=
  .ofList ((line.toList.drop start).take width)

theorem columns_eq {start width : Nat} {line : String} {before field after : List Char}
    (hline : line.toList = before ++ field ++ after) (hbefore : before.length = start)
    (hfield : field.length = width) : columns start width line = .ofList field := by
  rw [columns, hline, List.append_assoc, List.drop_left' hbefore, List.take_left' hfield]

/-- The characters between the bytes of the hexadecimal field. -/
def betweenBytes (c : Char) : Bool :=
  c == '-' || c == ' '

/-- The bytes that a row shows in hexadecimal, two digits each. -/
def hexPairs (line : String) : List String :=
  Text.runs betweenBytes (columns 14 48 line)

/-- How a byte is shown as a character: as itself if that is printable ASCII, else as a point. -/
structure ShowsByte (b : UInt8) (c : Char) : Prop where
  itself : c = Char.ofNat b.toNat ↔ 0x20 ≤ b ∧ b ≤ 0x7E
  point (h : ¬ (0x20 ≤ b ∧ b ≤ 0x7E)) : c = '.'

/-- A row of a dump, by its columns. -/
structure RowShows (a : Address) (bytes : List UInt8) (line : String) : Prop where
  address : columns 0 13 line = a.text
  gap : columns 13 1 line = " "
  hex : hexPairs line = bytes.map fun b => Text.hex 2 b.toNat
  secondGap : columns 62 1 line = " "
  characters : List.Forall₂ ShowsByte bytes (line.toList.drop 63)

theorem character_shows (b : UInt8) : ShowsByte b (character b) := by
  unfold character
  by_cases h : 0x20 ≤ b ∧ b ≤ 0x7E
  · have hshown : (decide (0x20 ≤ b) && decide (b ≤ 0x7E)) = true := by simpa using h
    rw [if_pos hshown]
    exact ⟨iff_of_true rfl h, fun hnot => absurd h hnot⟩
  · have hhidden : ¬ (decide (0x20 ≤ b) && decide (b ≤ 0x7E)) = true := by simpa using h
    rw [if_neg hhidden]
    -- A point is printable, so it stands for itself only.
    have hpoint : '.' ≠ Char.ofNat b.toNat := by
      intro heq
      have hcode : ∀ n < 256, '.' = Char.ofNat n → n = 0x2E := by decide +kernel
      have hb : b.toNat = 0x2E := hcode b.toNat b.toNat_lt heq
      exact h (by simp [UInt8.le_iff_toNat_le, hb])
    exact ⟨iff_of_false hpoint h, fun _ => rfl⟩

theorem length_hexPart (row : List UInt8) : (hexPart row).toList.length = 3 * row.length := by
  induction row using hexPart.induct with
  | case1 => rfl
  | case2 b => simp [hexPart, Text.hex]
  | case3 b c rest ih =>
    simp [hexPart, Text.hex, ih]
    omega

theorem runs_hexPart (row : List UInt8) (rest : List Char) :
    Text.runs betweenBytes (.ofList ((hexPart row).toList ++ rest)) =
      row.map (fun b => Text.hex 2 b.toNat) ++ Text.runs betweenBytes (.ofList rest) := by
  have hpair {b : UInt8} {c : Char} (hc : betweenBytes c = true) (rest : List Char) :
      Text.runs betweenBytes (.ofList (Text.hexDigits 2 b.toNat ++ c :: rest)) =
        Text.hex 2 b.toNat :: Text.runs betweenBytes (.ofList rest) := by
    have hdigits : ∀ d ∈ Text.hexDigits 2 b.toNat, betweenBytes d = false :=
      Text.forall_mem_hexDigits (by decide) 2 b.toNat
    exact Text.runs_append_cons (by simp [← List.length_pos_iff]) hdigits hc rest
  induction row using hexPart.induct with
  | case1 => simp [hexPart]
  | case2 b => simpa [hexPart, Text.hex] using hpair (b := b) (c := '-') rfl rest
  | case3 b c more ih =>
    have hb := hpair (b := b) (c := '-') rfl
      (Text.hexDigits 2 c.toNat ++ ' ' :: ((hexPart more).toList ++ rest))
    have hc := hpair (b := c) (c := ' ') rfl ((hexPart more).toList ++ rest)
    rw [hc, ih] at hb
    simpa [hexPart, Text.hex] using hb

theorem memoryRow_eq (a : Address) {row : List UInt8} (h : row.length ≤ 16) :
    ∃ field, (memoryRow a row).toList =
        a.text.toList ++ ([' '] ++ (field ++ ([' '] ++ row.map character))) ∧
      field.length = 48 ∧
      Text.runs betweenBytes (.ofList field) = row.map fun b => Text.hex 2 b.toNat := by
  refine ⟨(Text.padEnd (3 * rowLength) (hexPart row)).toList, ?_, ?_, ?_⟩
  · simp [memoryRow]
  · simp only [Text.padEnd, String.toList_ofList, List.length_append, List.length_replicate,
      length_hexPart, rowLength]
    omega
  · rw [Text.padEnd, String.toList_ofList, runs_hexPart, Text.runs_of_separators, List.append_nil]
    intro c hc
    rw [List.eq_of_mem_replicate hc]
    rfl

/-- The first word of a row is its address. -/
theorem words_memoryRow (a : Address) (row : List UInt8) :
    (Text.words (memoryRow a row)).head? = some a.text := by
  have hne : a.text.toList ≠ [] := by simp [a.isWord_text.ne_empty]
  have hspace : ∀ c ∈ a.text.toList, (c == ' ') = false := by
    intro c hc
    rw [beq_eq_false_iff_ne]
    rintro rfl
    exact a.isWord_text.no_space hc
  have hline : memoryRow a row = .ofList (a.text.toList ++ ' ' ::
      ((Text.padEnd (3 * rowLength) (hexPart row)).toList ++ ' ' :: row.map character)) := by
    rw [← String.toList_inj]
    simp [memoryRow]
  rw [hline, Text.words, Text.runs_append_cons hne hspace rfl, String.ofList_toList]
  rfl

theorem memoryRow_shows (a : Address) {row : List UInt8} (h : row.length ≤ 16) :
    RowShows a row (memoryRow a row) := by
  obtain ⟨field, hline, hfield, hpairs⟩ := memoryRow_eq a h
  have haddress := a.length_text
  have hfront : (a.text.toList ++ [' ']).length = 14 := by simp [haddress]
  have hmiddle : (a.text.toList ++ ([' '] ++ field)).length = 62 := by simp [haddress, hfield]
  refine ⟨?_, ?_, ?_, ?_, ?_⟩
  · have hsplit : (memoryRow a row).toList =
        [] ++ a.text.toList ++ (' ' :: (field ++ ' ' :: row.map character)) := by simpa using hline
    rw [columns_eq hsplit List.length_nil haddress, String.ofList_toList]
  · have hsplit : (memoryRow a row).toList =
        a.text.toList ++ [' '] ++ (field ++ ' ' :: row.map character) := by simpa using hline
    exact columns_eq hsplit haddress rfl
  · have hsplit : (memoryRow a row).toList =
        (a.text.toList ++ [' ']) ++ field ++ (' ' :: row.map character) := by simpa using hline
    rw [hexPairs, columns_eq hsplit hfront hfield, hpairs]
  · have hsplit : (memoryRow a row).toList =
        (a.text.toList ++ ([' '] ++ field)) ++ [' '] ++ row.map character := by simpa using hline
    exact columns_eq hsplit hmiddle rfl
  · have hsplit : (memoryRow a row).toList =
        (a.text.toList ++ ([' '] ++ (field ++ [' ']))) ++ row.map character := by simpa using hline
    have hlast : (memoryRow a row).toList.drop 63 = row.map character := by
      rw [hsplit, List.drop_left' (by simp [haddress, hfield])]
    rw [hlast, List.forall₂_map_right_iff]
    exact List.forall₂_same.mpr fun b _ => character_shows b

end Listing

end DebugConsole
