import Mathlib.Data.List.Sort
import Mathlib.Data.String.Basic
import DebugConsole.Proofs.Command.Tables
import DebugConsole.Proofs.Text.LetterCase

/-!
# Help

The help of a table lists every command once, sorted and aligned (`help_lists_commands`).

- **Width** (`length_nameColumn_le`): no column of names has more characters than the widest has
  bytes, so each is filled up and none is cut.
- **Order** (`pairwise_sortKey_lt`): the names are unique in upper case and sorted in lower case.
-/

namespace DebugConsole

variable {η : Type}

/-! ## Width -/

namespace Text

theorem length_le_utf8ByteSize (s : String) : s.length ≤ s.utf8ByteSize := by
  have hchars (cs : List Char) : cs.length ≤ String.utf8Len cs := by
    induction cs with
    | nil => exact Nat.le_refl 0
    | cons c rest ih =>
      rw [List.length_cons, String.utf8Len_cons]
      exact Nat.add_le_add ih c.utf8Size_pos
  rw [← String.ofList_toList (s := s), String.utf8ByteSize_ofList, String.length_ofList]
  exact hchars s.toList

theorem padEnd_eq (width : Nat) (s : String) :
    padEnd width s = s ++ .ofList (List.replicate (width - s.length) ' ') := by
  simp [padEnd, String.ofList_append, String.length_toList]

end Text

namespace CommandTable

/-- A line shows a command: its names in order, parted by single spaces and filled up with spaces
to a width, and behind a colon what the command does. -/
def Shows (width : Nat) (command : Command η) (line : String) : Prop :=
  ∃ fill, (" ".intercalate command.names).length + fill = width ∧
    line = " ".intercalate command.names ++ .ofList (List.replicate fill ' ') ++ ": " ++
      command.description

variable {commands : List (Command η)} {command : Command η}

theorem utf8ByteSize_le_columnWidth (h : command ∈ commands) :
    (nameColumn command).utf8ByteSize ≤ columnWidth commands := by
  have hmem := List.mem_map_of_mem (f := fun command => (nameColumn command).utf8ByteSize) h
  rw [columnWidth, List.foldl_max, Nat.zero_max]
  cases hmax : (commands.map fun command => (nameColumn command).utf8ByteSize).max? with
  | none => simp [List.max?_eq_none_iff.mp hmax] at hmem
  | some widest => exact (List.max?_eq_some_iff.mp hmax).2 _ hmem

theorem length_nameColumn_le (h : command ∈ commands) :
    (nameColumn command).length ≤ columnWidth commands :=
  (Text.length_le_utf8ByteSize _).trans (utf8ByteSize_le_columnWidth h)

theorem shows_helpLine {width : Nat} (h : (nameColumn command).length ≤ width) :
    Shows width command (helpLine width command) := by
  refine ⟨width - (nameColumn command).length, Nat.add_sub_cancel' h, ?_⟩
  rw [helpLine, Text.padEnd_eq]
  rfl

/-! ## Order -/

/-- The commands of a table in the order of its help. -/
def listed (commands : List (Command η)) : List (Command η) :=
  commands.mergeSort fun a b => decide (sortKey a ≤ sortKey b)

theorem listed_perm (commands : List (Command η)) : (listed commands).Perm commands :=
  List.mergeSort_perm commands _

theorem pairwise_sortKey_le (commands : List (Command η)) :
    (listed commands).Pairwise fun a b => sortKey a ≤ sortKey b := by
  have hsorted : (listed commands).Pairwise fun a b => decide (sortKey a ≤ sortKey b) = true := by
    refine List.pairwise_mergeSort (fun a b c hab hbc => ?_) (fun a b => ?_) commands
    · rw [decide_eq_true_iff] at hab hbc ⊢
      exact String.le_trans hab hbc
    · simpa using String.le_total (sortKey a) (sortKey b)
  exact hsorted.imp of_decide_eq_true

/-- Different commands have different first names, whatever the letter case. -/
theorem WellNamed.pairwise_sortKey_ne (h : WellNamed commands) :
    commands.Pairwise fun a b => sortKey a ≠ sortKey b := by
  have hdistinct := (List.nodup_flatMap.mp h.distinct).2
  have hkey {command : Command η} (hmem : command ∈ commands) :
      Text.upper (command.names.headD "") ∈ command.keys := by
    obtain ⟨first, others, hnames⟩ := List.exists_cons_of_ne_nil (h.named command hmem)
    simp [Command.keys, hnames]
  refine hdistinct.imp_of_mem fun {a b} ha hb hdisjoint heq => ?_
  have hsame : Text.sameName (a.names.headD "") (b.names.headD "") = true :=
    Text.sameName_iff_lower.mpr heq
  refine hdisjoint (hkey ha) ?_
  rw [beq_iff_eq.mp hsame]
  exact hkey hb

theorem WellNamed.pairwise_sortKey_lt (h : WellNamed commands) :
    (listed commands).Pairwise fun a b => sortKey a < sortKey b := by
  have hne := h.pairwise_sortKey_ne.perm (listed_perm commands).symm Ne.symm
  refine (pairwise_sortKey_le commands).imp₂ (fun a b hle hne => ?_) hne
  exact String.not_le.mp fun hge => hne (String.le_antisymm hle hge)

/-! ## Help -/

/-- The help of a table has one line for each command. All of them fill up the names to one width,
and the first names ascend in lower case. -/
theorem help_lists_commands {t : CommandTable η} (h : build commands = .ok t) :
    ∃ (width : Nat) (sorted : List (Command η)) (firsts : List String),
      sorted.Perm commands ∧ sorted.Forall₂ (Shows width) t.help ∧
        sorted.map (·.names.head?) = firsts.map some ∧
          (firsts.map Text.lower).Pairwise (· < ·) := by
  obtain ⟨rfl, hnamed⟩ := build_ok_iff.mp h
  have hmem {command : Command η} : command ∈ listed t.commands → command ∈ t.commands :=
    (listed_perm t.commands).mem_iff.mp
  refine ⟨columnWidth t.commands, listed t.commands,
    (listed t.commands).map (·.names.headD ""), listed_perm t.commands, ?lines, ?firsts, ?ascend⟩
  case lines =>
    refine List.forall₂_map_right_iff.mpr (List.forall₂_same.mpr fun command hcommand => ?_)
    exact shows_helpLine (length_nameColumn_le (hmem hcommand))
  case firsts =>
    rw [List.map_map]
    refine List.map_congr_left fun command hcommand => ?_
    obtain ⟨first, others, hnames⟩ :=
      List.exists_cons_of_ne_nil (hnamed.named command (hmem hcommand))
    simp [hnames]
  case ascend =>
    rw [List.pairwise_map, List.pairwise_map]
    exact hnamed.pairwise_sortKey_lt

/-- The widest names have six characters in seven bytes, and `Q` stands behind `a` and before `z`. -/
theorem help_lists_three :
    let zeta : Command Unit := ⟨["zoom", "É"], "Zeta", ()⟩
    let leave : Command Unit := ⟨["Quit", "x"], "Leave", ()⟩
    let alpha : Command Unit := ⟨["a"], "Alpha: β", ()⟩
    ∃ t, build [zeta, leave, alpha] = .ok t ∧
      t.help = ["a      : Alpha: β", "Quit x : Leave", "zoom É : Zeta"] ∧
      ∃ (width : Nat) (sorted : List (Command Unit)) (firsts : List String),
        sorted.Perm [zeta, leave, alpha] ∧ sorted.Forall₂ (Shows width) t.help ∧
          sorted.map (·.names.head?) = firsts.map some ∧
            (firsts.map Text.lower).Pairwise (· < ·) := by
  intro zeta leave alpha
  have hbuild : build [zeta, leave, alpha] = .ok ⟨[zeta, leave, alpha], by decide +kernel⟩ := rfl
  refine ⟨_, hbuild, ?_, help_lists_commands hbuild⟩
  have hleave : ¬ sortKey zeta ≤ sortKey leave := by decide +kernel
  have halpha : ¬ sortKey leave ≤ sortKey alpha := by decide +kernel
  have hsorted : listed [zeta, leave, alpha] = [alpha, leave, zeta] := by
    simp [listed, List.mergeSort, List.MergeSort.Internal.splitInTwo, hleave, halpha]
  show (listed [zeta, leave, alpha]).map (helpLine (columnWidth [zeta, leave, alpha])) = _
  rw [hsorted]
  decide +kernel

end CommandTable

end DebugConsole
