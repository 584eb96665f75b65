import Mathlib.Data.List.Flatten
import Mathlib.Data.List.Nodup
import DebugConsole.Command.Table
import DebugConsole.Proofs.Text.LetterCase

/-!
# Accepted command tables

Which lists of commands are tables, and what that means for looking a name up.

- **Names** (`nameOffence_eq_none_iff`): those of one command are accepted if each can be typed and
  no two are equal up to letter case, neither among themselves nor with the earlier ones.
- **Tables** (`build_ok_iff`): a list of commands is a table if every command has names and all
  names together are accepted (`WellNamed`).
- **Lookup** (`answers_unique`, `find?_eq_some_of_answers`): a name belongs to at most one entry of
  a table, and lookup finds that entry.
-/

namespace DebugConsole

variable {η : Type}

/-- What lookup compares of a command: its names in upper case. -/
def Command.keys (command : Command η) : List String :=
  command.names.map Text.upper

/-- The command has the name, up to the case of ASCII letters. -/
def Command.Answers (command : Command η) (name : String) : Prop :=
  ∃ known ∈ command.names, Text.sameName known name = true

theorem Command.answers_iff {command : Command η} {name : String} :
    command.Answers name ↔ Text.upper name ∈ command.keys := by
  simp [Answers, keys, Text.sameName]

namespace CommandTable

/-- Every command can be called, and every name belongs to one command only. -/
structure WellNamed (commands : List (Command η)) : Prop where
  named : ∀ command ∈ commands, command.names ≠ []
  typable : ∀ command ∈ commands, ∀ name ∈ command.names, isName name = true
  distinct : (commands.flatMap Command.keys).Nodup

/-- A name can be typed as one word: it is not empty, and nothing in it is white space. -/
theorem isName_iff {name : String} :
    isName name = true ↔ name ≠ "" ∧ ∀ c ∈ name.toList, isBlank c = false := by
  simp [isName]

theorem isWord_of_isName {name : String} (h : isName name = true) : Text.IsWord name := by
  obtain ⟨hne, hblank⟩ := isName_iff.mp h
  exact ⟨hne, fun hspace => absurd (hblank ' ' hspace) (by decide)⟩

theorem nameOffence_eq_none_iff {taken names : List String} :
    nameOffence taken names = none ↔
      (∀ name ∈ names, isName name = true) ∧ (names.map Text.upper).Nodup ∧
        (names.map Text.upper).Disjoint taken := by
  induction names generalizing taken with
  | nil => simp [nameOffence]
  | cons name rest ih =>
    rw [nameOffence, List.map_cons, List.forall_mem_cons, List.nodup_cons,
      List.disjoint_cons_left]
    cases hname : isName name with
    | false => simp
    | true =>
      by_cases htaken : Text.upper name ∈ taken
      · simp [htaken]
      · simp only [Bool.not_true, Bool.false_eq_true, if_false, htaken, not_false_eq_true, ih,
          List.disjoint_cons_right]
        tauto

theorem wellNamed_cons_iff {command : Command η} {rest : List (Command η)} :
    WellNamed (command :: rest) ↔ command.names ≠ [] ∧
      (∀ name ∈ command.names, isName name = true) ∧ command.keys.Nodup ∧ WellNamed rest ∧
        command.keys.Disjoint (rest.flatMap Command.keys) := by
  constructor
  · rintro ⟨hnamed, htypable, hdistinct⟩
    rw [List.forall_mem_cons] at hnamed htypable
    rw [List.flatMap_cons, List.nodup_append'] at hdistinct
    exact ⟨hnamed.1, htypable.1, hdistinct.1, ⟨hnamed.2, htypable.2, hdistinct.2.1⟩, hdistinct.2.2⟩
  · rintro ⟨hnamed, htypable, hdistinct, hrest, hdisjoint⟩
    refine ⟨List.forall_mem_cons.mpr ⟨hnamed, hrest.named⟩,
      List.forall_mem_cons.mpr ⟨htypable, hrest.typable⟩, ?_⟩
    rw [List.flatMap_cons, List.nodup_append']
    exact ⟨hdistinct, hrest.distinct, hdisjoint⟩

theorem offence_eq_none_iff {taken : List String} {commands : List (Command η)} :
    offence taken commands = none ↔
      WellNamed commands ∧ (commands.flatMap Command.keys).Disjoint taken := by
  induction commands generalizing taken with
  | nil => simpa [offence] using WellNamed.mk (by simp) (by simp) (by simp)
  | cons command rest ih =>
    have hnames : nameOffence taken command.names = none ↔ (∀ name ∈ command.names,
        isName name = true) ∧ command.keys.Nodup ∧ command.keys.Disjoint taken :=
      nameOffence_eq_none_iff
    -- The names of the first command are taken when the other commands are looked at.
    have hrest : offence (command.keys ++ taken) rest = none ↔ WellNamed rest ∧
        (rest.flatMap Command.keys).Disjoint (command.keys ++ taken) := ih
    rw [List.disjoint_append_right, List.disjoint_comm] at hrest
    rw [offence, wellNamed_cons_iff, List.flatMap_cons, List.disjoint_append_left]
    by_cases hnamed : command.names = []
    · simp [hnamed]
    rw [if_neg (by simpa using hnamed)]
    cases hoffence : nameOffence taken command.names with
    | some e =>
      rw [hoffence] at hnames
      simp only [reduceCtorEq, false_iff] at hnames ⊢
      tauto
    | none =>
      rw [hoffence, eq_self_iff_true, true_iff] at hnames
      refine Iff.trans hrest ?_
      tauto

theorem build_ok_iff {commands : List (Command η)} {t : CommandTable η} :
    build commands = .ok t ↔ t.commands = commands ∧ WellNamed commands := by
  have hoffence : offence [] commands = none ↔ WellNamed commands := by
    have h : offence [] commands = none ↔
        WellNamed commands ∧ (commands.flatMap Command.keys).Disjoint [] := offence_eq_none_iff
    simpa using h
  unfold build
  split
  · rename_i h
    rw [← hoffence]
    constructor
    · rintro ⟨⟩
      exact ⟨rfl, h⟩
    · rintro ⟨rfl, -⟩
      rfl
  · rename_i e h
    rw [← hoffence, h]
    simp

theorem wellNamed (t : CommandTable η) : WellNamed t.commands :=
  (offence_eq_none_iff.mp t.noOffence).1

/-! ## Lookup -/

variable {t : CommandTable η} {name : String}

/-- Two entries of a table that have one name are the same. -/
theorem answers_unique {i j : Nat} {command other : Command η}
    (hi : t.commands[i]? = some command) (hj : t.commands[j]? = some other)
    (hname : command.Answers name) (hother : other.Answers name) : i = j := by
  have hdistinct := (List.nodup_flatMap.mp t.wellNamed.distinct).2
  rw [List.pairwise_iff_getElem] at hdistinct
  obtain ⟨hi', rfl⟩ := List.getElem?_eq_some_iff.mp hi
  obtain ⟨hj', rfl⟩ := List.getElem?_eq_some_iff.mp hj
  rw [Command.answers_iff] at hname hother
  rcases Nat.lt_trichotomy i j with hlt | heq | hgt
  · exact absurd hother (hdistinct i j hi' hj' hlt hname)
  · exact heq
  · exact absurd hname (hdistinct j i hj' hi' hgt hother)

theorem any_sameName_iff {command : Command η} :
    command.names.any (Text.sameName name) = true ↔ command.Answers name := by
  simp only [List.any_eq_true, Command.Answers, Text.sameName_comm]

theorem find?_congr (t : CommandTable η) {name' : String} (h : Text.sameName name name' = true) :
    t.find? name = t.find? name' := by
  have hsame : Text.sameName name = Text.sameName name' := funext (Text.sameName_congr h)
  simp only [find?, hsame]

theorem find?_eq_none_iff :
    t.find? name = none ↔ ∀ command ∈ t.commands, ¬ command.Answers name := by
  simp only [find?, List.find?_eq_none, any_sameName_iff]

theorem answers_of_find? {command : Command η} (h : t.find? name = some command) :
    command ∈ t.commands ∧ command.Answers name := by
  unfold find? at h
  exact ⟨List.mem_of_find?_eq_some h, any_sameName_iff.mp (by simpa using List.find?_some h)⟩

/-- Lookup finds the entry that has the name. -/
theorem find?_eq_some_of_answers {i : Nat} {command : Command η}
    (hi : t.commands[i]? = some command) (hname : command.Answers name) :
    t.find? name = some command := by
  cases hfind : t.find? name with
  | none => exact absurd hname (find?_eq_none_iff.mp hfind command (List.mem_of_getElem? hi))
  | some other =>
    obtain ⟨hmem, hother⟩ := answers_of_find? hfind
    obtain ⟨j, hj⟩ := List.mem_iff_getElem?.mp hmem
    obtain rfl := answers_unique hi hj hname hother
    rw [← hj, hi]

end CommandTable

end DebugConsole
