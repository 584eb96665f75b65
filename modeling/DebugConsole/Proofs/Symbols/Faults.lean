import Mathlib.Data.Set.Card
import DebugConsole.Proofs.Symbols.Definitions

/-!
# Accepted and refused symbol files

Which texts are symbol files, and what is reported of the others.

- **Lines** (`WellFormed`, `Reported`): a line that holds no more than a comment or defines a symbol
  is well-formed. Any other line is reported for the number of its fields, or for its offset.
- **Files** (`parseLines_error`): the first line that is not well-formed is reported, by its number.
- **Tables** (`Keyed`, `Keyed.size_eq`): no name is twice in a table, so its size is the number of
  names.
-/

namespace DebugConsole.SymbolTable

variable {line : String} {lines : List String} {t : SymbolTable} {n : Nat}

/-! ## Lines -/

/-- The line is empty up to its comment. -/
def Vacant (line : String) : Prop :=
  ∃ text, Uncommented line text ∧ Text.Parted isBlank text []

/-- The line is empty up to its comment, or it defines a symbol. -/
def WellFormed (line : String) : Prop :=
  Vacant line ∨ ∃ name offset, Defines line name offset

/-- What is reported of a line that is not well-formed, if it is the one with that number. -/
inductive Reported (number : Nat) (line : String) : String → Prop where
  | fieldCount {text : List Char} {fields : List String} (htext : Uncommented line text)
    (hfields : Text.Parted isBlank text fields) (hcount : fields.length ≠ 0 ∧ fields.length ≠ 2) :
    Reported number line ("line " ++ toString number ++ ": " ++ "expected `name offset`")
  | badOffset {text : List Char} {name field : String} (htext : Uncommented line text)
    (hfields : Text.Parted isBlank text [name, field])
    (hoffset : ∀ value, ¬ SpellsOffset field value) :
    Reported number line ("line " ++ toString number ++ ": " ++ "bad offset \"" ++ field ++ "\"")

theorem parted_fields (line : String) :
    Text.Parted isBlank (withoutComment line).toList (Text.fields (withoutComment line)) :=
  Text.runs_iff.mp rfl

theorem vacant_iff : Vacant line ↔ parseLine line = .ok none := by
  have hfields : Vacant line ↔ Text.fields (withoutComment line) = [] := by
    simp only [Vacant, uncommented_iff, exists_eq_left', Text.fields, Text.runs_iff]
  rw [hfields]
  unfold parseLine
  split
  case h_1 hnone => simp [hnone]
  case h_2 name field hfields => split <;> simp [hfields]
  case h_3 hnone hpair => simpa using hnone

theorem wellFormed_iff : WellFormed line ↔ ∃ definition, parseLine line = .ok definition := by
  simp only [WellFormed, vacant_iff, ← parseLine_eq_ok_iff]
  constructor
  · rintro (h | ⟨name, offset, h⟩)
    · exact ⟨none, h⟩
    · exact ⟨some (name, offset), h⟩
  · rintro ⟨_ | ⟨name, offset⟩, h⟩
    · exact .inl h
    · exact .inr ⟨name, offset, h⟩

/-- The fault of a line is reported as what is wrong with the line. -/
theorem reported_of_parseLine {fault : SymbolFault} (h : parseLine line = .error fault) (n : Nat) :
    ∃ message causes, SymbolError.chain ⟨n, fault⟩ = message :: causes ∧
      Reported n line message := by
  have htext : Uncommented line (withoutComment line).toList := uncommented_iff.mpr rfl
  have hfields := parted_fields line
  unfold parseLine at h
  split at h
  case h_1 hnone => cases h
  case h_2 name field hpair =>
    split at h
    case h_1 value hread => cases h
    case h_2 cause hread =>
      cases h
      refine ⟨_, _, rfl, .badOffset htext (hpair ▸ hfields) fun value hvalue => ?_⟩
      rw [spellsOffset_iff.mp hvalue] at hread
      cases hread
  case h_3 hnone hpair =>
    cases h
    refine ⟨_, _, rfl, .fieldCount htext hfields ⟨?_, ?_⟩⟩
    · simpa using hnone
    · intro hcount
      obtain ⟨name, field, hfields⟩ := List.length_eq_two.mp hcount
      exact hpair name field hfields

/-! ## Files -/

theorem exists_parseLines_iff :
    (∃ t', parseLines t n lines = .ok t') ↔ ∀ line ∈ lines, WellFormed line := by
  induction lines generalizing t n with
  | nil => simp [parseLines]
  | cons line rest ih =>
    rw [List.forall_mem_cons, wellFormed_iff]
    unfold parseLines
    cases parseLine line with
    | error fault => simp
    | ok definition => cases definition <;> simp [ih]

/-- The fault that is reported is that of the first line that is not well-formed. -/
theorem parseLines_error {e : SymbolError} (h : parseLines t n lines = .error e) :
    ∃ before line after, lines = before ++ line :: after ∧
      (∀ earlier ∈ before, WellFormed earlier) ∧ e.line = n + before.length ∧
        parseLine line = .error e.fault := by
  induction lines generalizing t n with
  | nil => cases h
  | cons line rest ih =>
    unfold parseLines at h
    cases hline : parseLine line with
    | error fault =>
      rw [hline] at h
      cases h
      exact ⟨[], line, rest, rfl, List.forall_mem_nil _, rfl, hline⟩
    | ok definition =>
      have hgood : WellFormed line := wellFormed_iff.mpr ⟨definition, hline⟩
      obtain ⟨t', hrest⟩ : ∃ t', parseLines t' (n + 1) rest = .error e := by
        rw [hline] at h
        cases definition with
        | none => exact ⟨_, h⟩
        | some definition => exact ⟨_, h⟩
      obtain ⟨before, bad, after, rfl, hbefore, hnumber, hbad⟩ := ih hrest
      refine ⟨line :: before, bad, after, rfl, List.forall_mem_cons.mpr ⟨hgood, hbefore⟩, ?_, hbad⟩
      rw [hnumber, List.length_cons]
      omega

/-! ## Tables -/

/-- No name is twice in the table. -/
def Keyed (t : SymbolTable) : Prop :=
  (t.entries.map Prod.fst).Nodup

theorem keyed_empty : Keyed {} :=
  List.nodup_nil

theorem Keyed.insert (h : t.Keyed) (name : String) (offset : UInt32) :
    (t.insert name offset).Keyed := by
  have hrest : ((t.entries.filter (·.1 ≠ name)).map Prod.fst).Nodup :=
    h.sublist (List.filter_sublist.map Prod.fst)
  have hname : name ∉ (t.entries.filter (·.1 ≠ name)).map Prod.fst := by simp
  exact List.nodup_cons.mpr ⟨hname, hrest⟩

theorem Keyed.parseLines (h : t.Keyed) {t' : SymbolTable}
    (hparse : parseLines t n lines = .ok t') : t'.Keyed := by
  induction lines generalizing t n with
  | nil =>
    cases hparse
    exact h
  | cons line rest ih =>
    unfold SymbolTable.parseLines at hparse
    cases hline : parseLine line with
    | error fault => simp [hline] at hparse
    | ok definition =>
      rw [hline] at hparse
      cases definition with
      | none => exact ih h hparse
      | some definition => exact ih (h.insert definition.1 definition.2) hparse

/-- The size of a table is the number of names that have an offset in it. -/
theorem Keyed.size_eq (h : t.Keyed) : t.size = {name | (t.find? name).isSome}.ncard := by
  have hnames : {name | (t.find? name).isSome} =
      ((t.entries.map Prod.fst).toFinset : Set String) := by
    ext name
    simp [find?]
  rw [hnames, Set.ncard_coe_finset, List.toFinset_card_of_nodup h, List.length_map]
  rfl

theorem isSome_find?_iff {text name : String} (h : parse text = .ok t) :
    (t.find? name).isSome ↔ ∃ line ∈ Text.lines text, ∃ offset, Defines line name offset := by
  rw [Option.isSome_iff_exists]
  simp only [find?_eq_some_iff h]
  constructor
  · rintro ⟨offset, before, line, after, hlines, hline, -⟩
    exact ⟨line, hlines ▸ by simp, offset, hline⟩
  · rintro ⟨line, hmem, offset, hline⟩
    exact exists_lastDefined hmem hline

/-- A text is a symbol file exactly if all of its lines are well-formed. In its table, a name has
the offset of its last definition, and none without a definition, and the size is the number of
names that are defined. Otherwise the first line that is not well-formed is reported, counted from
one. -/
theorem parse_exact (text : String) :
    ((∃ t, parse text = .ok t) ↔ ∀ line ∈ Text.lines text, WellFormed line) ∧
    (∀ t, parse text = .ok t →
      (∀ name offset, t.find? name = some offset ↔ LastDefined (Text.lines text) name offset) ∧
      (∀ name, t.find? name = none ↔
        ∀ line ∈ Text.lines text, ∀ offset, ¬ Defines line name offset) ∧
      t.size = {name | ∃ line ∈ Text.lines text, ∃ offset, Defines line name offset}.ncard) ∧
    ∀ e, parse text = .error e → ∃ before line after message causes,
      Text.lines text = before ++ line :: after ∧ (∀ earlier ∈ before, WellFormed earlier) ∧
        e.line = before.length + 1 ∧ e.chain = message :: causes ∧
          Reported (before.length + 1) line message := by
  refine ⟨exists_parseLines_iff, fun t h => ⟨fun name offset => find?_eq_some_iff h, fun name => ?_,
    ?_⟩, fun e h => ?_⟩
  · rw [← Option.not_isSome_iff_eq_none, isSome_find?_iff h]
    push Not
    rfl
  · have hkeyed : t.Keyed := keyed_empty.parseLines h
    rw [hkeyed.size_eq]
    simp only [isSome_find?_iff h]
  · obtain ⟨before, line, after, hlines, hbefore, hnumber, hfault⟩ := parseLines_error h
    obtain ⟨message, causes, hchain, hreported⟩ := reported_of_parseLine hfault e.line
    have hline : e.line = before.length + 1 := by omega
    exact ⟨before, line, after, message, causes, hlines, hbefore, hline, hchain, hline ▸ hreported⟩

/-- A name that is defined twice, and a file with two wrong lines behind an empty one. -/
theorem parse_exact_two_files :
    let text := "# map\r\nmain 0x0100\r\n\tmain +1F # later\r\nMain 2"
    let t : SymbolTable := ⟨[("Main", 2), ("main", 0x1F)]⟩
    let wrong := "main 100\n\nmain xyz\nbroken"
    let e : SymbolError := ⟨3, .badOffset "xyz" .invalidDigit⟩
    parse text = .ok t ∧ (∀ line ∈ Text.lines text, WellFormed line) ∧
      LastDefined (Text.lines text) "main" 0x1F ∧
      {name | ∃ line ∈ Text.lines text, ∃ offset, Defines line name offset}.ncard = 2 ∧
      parse wrong = .error e ∧ ∃ before line after message causes,
        Text.lines wrong = before ++ line :: after ∧ (∀ earlier ∈ before, WellFormed earlier) ∧
          e.line = before.length + 1 ∧ e.chain = message :: causes ∧
            Reported (before.length + 1) line message := by
  intro text t wrong e
  have hparse : parse text = .ok t := by decide +kernel
  have hwrong : parse wrong = .error e := by decide +kernel
  obtain ⟨hlines, htable, -⟩ := parse_exact text
  obtain ⟨-, -, hfault⟩ := parse_exact wrong
  obtain ⟨hfind, -, hsize⟩ := htable t hparse
  exact ⟨hparse, hlines.mp ⟨t, hparse⟩, (hfind "main" 0x1F).mp (by decide +kernel),
    hsize.symm, hwrong, hfault e hwrong⟩

end DebugConsole.SymbolTable
