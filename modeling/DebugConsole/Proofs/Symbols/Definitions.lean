import Mathlib.Data.List.TakeWhile
import DebugConsole.Proofs.Text.Digits
import DebugConsole.Proofs.Text.Runs
import DebugConsole.Symbols

/-!
# What a symbol file defines

The meaning of a symbol file, said without reading it: which lines define a symbol, and which of
them counts.

- **Lines** (`Defines`): up to a comment, a name and an offset between white space. The parser takes
  a line for a definition exactly if it is one (`parseLine_eq_ok_iff`).
- **Files** (`LastDefined`): the last definition of a name counts. A name has the offset in the
  table that its last definition gives it (`find?_eq_some_iff`).
-/

namespace DebugConsole

/-- An entry in place of those with its key is found under it, and all else is found as before. -/
theorem lookup_replace {α β : Type} [BEq α] [LawfulBEq α] [DecidableEq α] (entries : List (α × β))
    (key other : α) (value : β) :
    ((key, value) :: entries.filter (·.1 ≠ key)).lookup other =
      if other = key then some value else entries.lookup other := by
  by_cases h : other = key
  · simp [h]
  · have hfilter : (entries.filter (·.1 ≠ key)).lookup other = entries.lookup other := by
      induction entries with
      | nil => rfl
      | cons entry rest ih =>
        by_cases hentry : entry.1 = key
        · have hother : (other == entry.1) = false := by simpa [hentry] using h
          rw [List.filter_cons_of_neg (by simpa using hentry), ih, List.lookup_cons, hother]
        · rw [List.filter_cons_of_pos (by simpa using hentry), List.lookup_cons, List.lookup_cons,
            ih]
    have hother : (other == key) = false := by simpa using h
    rw [List.lookup_cons, hother, if_neg h]
    exact hfilter

namespace SymbolTable

/-! ## Lines -/

/-- The text of a line is what stands in front of the first `#`. -/
structure Uncommented (line : String) (text : List Char) : Prop where
  mark_not_mem : '#' ∉ text
  split : line.toList = text ∨ ∃ comment, line.toList = text ++ '#' :: comment

/-- Hexadecimal digits that fit 32 bits, with a mark or a plus in front of them or without. -/
def SpellsOffset (field : String) (offset : UInt32) : Prop :=
  ∃ mark ∈ ["", "+", "0x", "0x+"], ∃ digits, field.toList = mark.toList ++ digits ∧
    Text.digits? 16 digits = some offset.toNat

/-- The line defines a symbol: it consists of its name and its offset, up to a comment. -/
def Defines (line name : String) (offset : UInt32) : Prop :=
  ∃ text field, Uncommented line text ∧ Text.Parted isBlank text [name, field] ∧
    SpellsOffset field offset

theorem uncommented_iff {line : String} {text : List Char} :
    Uncommented line text ↔ (withoutComment line).toList = text := by
  have hmark {cs : List Char} (h : '#' ∉ cs) : ∀ c ∈ cs, (c != '#') = true := by
    intro c hc
    rw [bne_iff_ne]
    rintro rfl
    exact h hc
  rw [withoutComment, String.toList_ofList]
  constructor
  · rintro ⟨hnone, hsplit | ⟨comment, hsplit⟩⟩
    · rw [hsplit, List.takeWhile_eq_self_iff.mpr (hmark hnone)]
    · rw [hsplit, List.takeWhile_append_of_pos (hmark hnone)]
      simp
  · rintro rfl
    refine ⟨fun h => by simpa using List.mem_takeWhile_imp h, ?_⟩
    by_cases hnone : '#' ∈ line.toList
    · obtain ⟨before, after, hline, hbefore⟩ := List.eq_append_cons_of_mem hnone
      refine .inr ⟨after, ?_⟩
      rw [hline, List.takeWhile_append_of_pos (hmark hbefore)]
      simp
    · exact .inl (List.takeWhile_eq_self_iff.mpr (hmark hnone)).symm

theorem spellsOffset_iff {field : String} {offset : UInt32} :
    SpellsOffset field offset ↔
      Text.readUnsigned 16 UInt32.size (offsetDigits field) = .ok offset.toNat := by
  rw [Text.readUnsigned_eq_ok_iff (by decide) (by decide), SpellsOffset]
  have hoffset : offset.toNat < UInt32.size := offset.toNat_lt
  have hx (digits : List Char) : Text.digits? 16 ('0' :: 'x' :: digits) = none := by
    simp [Text.digits?, digitValue?]
  simp only [hoffset, true_and, List.mem_cons, List.not_mem_nil, or_false, exists_eq_or_imp,
    exists_eq_left, offsetDigits]
  split
  case h_1 rest hfield => simp [hfield, hx]
  case h_2 hnone =>
    have hmark (digits : List Char) : field.toList ≠ '0' :: 'x' :: digits := hnone digits
    simp [hmark]

theorem defines_iff {line name : String} {offset : UInt32} :
    Defines line name offset ↔
      ∃ field, Text.fields (withoutComment line) = [name, field] ∧ SpellsOffset field offset := by
  simp only [Defines, uncommented_iff, Text.fields, Text.runs_iff]
  constructor
  · rintro ⟨_, field, rfl, hparted, hoffset⟩
    exact ⟨field, hparted, hoffset⟩
  · rintro ⟨field, hparted, hoffset⟩
    exact ⟨_, field, rfl, hparted, hoffset⟩

/-- The parser takes a line for a definition exactly if it is one. -/
theorem parseLine_eq_ok_iff {line name : String} {offset : UInt32} :
    parseLine line = .ok (some (name, offset)) ↔ Defines line name offset := by
  rw [defines_iff]
  unfold parseLine
  split
  case h_1 hfields => simp [hfields]
  case h_2 name' field hfields =>
    simp only [hfields, spellsOffset_iff, List.cons.injEq, and_true]
    cases hread : Text.readUnsigned 16 UInt32.size (offsetDigits field) with
    | error cause =>
      refine iff_of_false (by simp) ?_
      rintro ⟨_, ⟨-, rfl⟩, h⟩
      rw [hread] at h
      cases h
    | ok value =>
      have hvalue : value < UInt32.size :=
        ((Text.readUnsigned_eq_ok_iff (by decide) (by decide)).mp hread).1
      constructor
      · rintro ⟨⟩
        exact ⟨field, ⟨rfl, rfl⟩, by rw [hread, UInt32.toNat_ofNat_of_lt' hvalue]⟩
      · rintro ⟨_, ⟨rfl, rfl⟩, h⟩
        rw [hread] at h
        cases h
        simp
  case h_3 hnone hpair =>
    refine iff_of_false (by simp) ?_
    rintro ⟨field, hfields, -⟩
    exact hpair name field hfields

/-- A name that a line defines is one word of a command line. -/
theorem Defines.isWord {line name : String} {offset : UInt32} (h : Defines line name offset) :
    Text.IsWord name := by
  obtain ⟨text, field, -, hparted, -⟩ := h
  obtain ⟨hne, hblank⟩ := hparted.of_mem (List.mem_cons_self ..)
  exact ⟨hne, fun hspace => absurd (hblank ' ' hspace) (by decide)⟩

/-! ## Files -/

/-- The last of the lines that define a name gives it that offset. -/
def LastDefined (lines : List String) (name : String) (offset : UInt32) : Prop :=
  ∃ before line after, lines = before ++ line :: after ∧ Defines line name offset ∧
    ∀ later ∈ after, ∀ other, ¬ Defines later name other

theorem lastDefined_cons_iff {line name : String} {rest : List String} {offset : UInt32} :
    LastDefined (line :: rest) name offset ↔ LastDefined rest name offset ∨
      Defines line name offset ∧ ∀ later ∈ rest, ∀ other, ¬ Defines later name other := by
  constructor
  · rintro ⟨before, last, after, hlines, hlast⟩
    rcases List.cons_eq_append_iff.mp hlines with ⟨rfl, h⟩ | ⟨before, rfl, rfl⟩
    · obtain ⟨rfl, rfl⟩ := List.cons.inj h
      exact .inr hlast
    · exact .inl ⟨before, last, after, rfl, hlast⟩
  · rintro (⟨before, last, after, rfl, hlast⟩ | hline)
    · exact ⟨line :: before, last, after, rfl, hlast⟩
    · exact ⟨[], line, rest, rfl, hline⟩

/-- A name that is defined somewhere has a last definition. -/
theorem exists_lastDefined {lines : List String} {line name : String} {offset : UInt32}
    (hmem : line ∈ lines) (hline : Defines line name offset) :
    ∃ last, LastDefined lines name last := by
  induction lines generalizing line offset with
  | nil => cases hmem
  | cons first rest ih =>
    by_cases hrest : ∃ later ∈ rest, ∃ other, Defines later name other
    · obtain ⟨later, hlater, other, hother⟩ := hrest
      obtain ⟨last, hlast⟩ := ih hlater hother
      exact ⟨last, lastDefined_cons_iff.mpr (.inl hlast)⟩
    · push Not at hrest
      rcases List.mem_cons.mp hmem with rfl | hmem
      · exact ⟨offset, lastDefined_cons_iff.mpr (.inr ⟨hline, hrest⟩)⟩
      · exact absurd hline (hrest line hmem offset)

theorem find?_insert (t : SymbolTable) (name other : String) (offset : UInt32) :
    (t.insert name offset).find? other = if other = name then some offset else t.find? other :=
  lookup_replace t.entries name other offset

/-- After some more lines, the last of them that defines a name counts; if there is none, the name
has the offset that it had. -/
theorem find?_parseLines {t t' : SymbolTable} {n : Nat} {lines : List String}
    (h : parseLines t n lines = .ok t') {name : String} {offset : UInt32} :
    t'.find? name = some offset ↔ LastDefined lines name offset ∨
      t.find? name = some offset ∧ ∀ line ∈ lines, ∀ other, ¬ Defines line name other := by
  induction lines generalizing t n with
  | nil =>
    cases h
    simp [LastDefined]
  | cons line rest ih =>
    rw [lastDefined_cons_iff, List.forall_mem_cons]
    unfold parseLines at h
    cases hline : parseLine line with
    | error fault => simp [hline] at h
    | ok definition =>
      rw [hline] at h
      cases definition with
      | none =>
        have hnone (other : UInt32) : ¬ Defines line name other := by
          simp [← parseLine_eq_ok_iff, hline]
        rw [ih h]
        simp [hnone]
      | some definition =>
        obtain ⟨name', value⟩ := definition
        have hdefines (other : UInt32) :
            Defines line name other ↔ name = name' ∧ other = value := by
          rw [← parseLine_eq_ok_iff, hline]
          simp [eq_comm]
        rw [ih h, find?_insert]
        simp only [hdefines]
        by_cases hname : name = name'
        · simp [hname, eq_comm]
        · simp [hname]

/-- In the table of a text, a name has the offset that its last definition gives it. -/
theorem find?_eq_some_iff {text name : String} {t : SymbolTable} {offset : UInt32}
    (h : parse text = .ok t) :
    t.find? name = some offset ↔ LastDefined (Text.lines text) name offset := by
  rw [find?_parseLines h]
  simp [find?]

end SymbolTable

end DebugConsole
