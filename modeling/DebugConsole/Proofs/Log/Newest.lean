import Mathlib.Algebra.Group.Nat.Defs
import Mathlib.Data.List.DropRight
import DebugConsole.Log

/-!
# The newest lines

What a history holds after any output (`newest_lines_kept`).

- **What was written** (`Output.sinceClear`): the lines behind the last wish to clear.
- **One output** (`Holds.write`): a line pushes out the oldest one if the history is full; a wish to
  clear leaves nothing. Either counts as one change.
- **All output** (`Holds.writeAll`): the history holds the newest lines and counts all changes.
- **The revision** (`eq_nil_of_revision_eq`): within 2^64 changes it does not come again, so who has
  drawn a revision need not draw it again.
-/

namespace DebugConsole

/-! ## What was written -/

namespace Output

/-- The line that an output writes. -/
def entry? : Output → Option Entry
  | .line e => some e
  | .clear => none

/-- The lines that were written since the last wish to clear. -/
def sinceClear (output : List Output) : List Entry :=
  (output.rtakeWhile (· != .clear)).filterMap entry?

theorem sinceClear_line (output : List Output) (e : Entry) :
    sinceClear (output ++ [.line e]) = sinceClear output ++ [e] := by
  rw [sinceClear, List.rtakeWhile_concat_pos _ _ _ (by simp), List.filterMap_append]
  rfl

theorem sinceClear_clear (output : List Output) : sinceClear (output ++ [.clear]) = [] := by
  rw [sinceClear, List.rtakeWhile_concat_neg _ _ _ (by simp)]
  rfl

end Output

namespace History

/-- What has been pushed out once does not matter any more. -/
theorem rtake_rtake_append {α : Type} (n : Nat) (xs ys : List α) :
    (xs.rtake n ++ ys).rtake n = (xs ++ ys).rtake n := by
  have hsplit : xs ++ ys = xs.take (xs.length - n) ++ (xs.rtake n ++ ys) := by
    rw [List.rtake, ← List.append_assoc, List.take_append_drop]
  generalize hkept : xs.rtake n ++ ys = kept at hsplit ⊢
  have hlength : kept.length + (xs.length - n) = xs.length + ys.length := by
    rw [← hkept, List.rtake, List.length_append, List.length_drop]
    omega
  have hdrop : (xs ++ ys).length - n = (xs.take (xs.length - n)).length + (kept.length - n) := by
    rw [List.length_append, List.length_take]
    omega
  rw [List.rtake, List.rtake, hdrop, hsplit, List.drop_length_add_append]

/-! ## One output -/

/-- The history of a capacity holds the newest lines of some output, and counts all of it. -/
structure Holds (h : History) (bound : Nat) (output : List Output) : Prop where
  capacity : h.capacity = bound
  entries : h.entries = (Output.sinceClear output).rtake bound
  revision : h.revision = UInt64.ofNat output.length

variable {h : History} {bound : Nat} {output : List Output}

theorem holds_empty (capacity : Nat) : (empty capacity).Holds (max capacity 1) [] :=
  ⟨rfl, (List.rtake_nil _).symm, rfl⟩

theorem Holds.write (hholds : h.Holds bound output) (o : Output) :
    (h.write o).Holds bound (output ++ [o]) := by
  obtain ⟨hcapacity, hentries, hrevision⟩ := hholds
  have hcount : h.revision + 1 = UInt64.ofNat (output ++ [o]).length := by
    rw [hrevision, List.length_append]
    simp
  cases o with
  | clear =>
    refine ⟨hcapacity, ?_, hcount⟩
    rw [Output.sinceClear_clear, List.rtake_nil]
    rfl
  | line e =>
    refine ⟨hcapacity, ?_, hcount⟩
    rw [Output.sinceClear_line, ← rtake_rtake_append, ← hentries, ← hcapacity]
    rfl

/-! ## All output -/

theorem writeAll_append (h : History) (output more : List Output) :
    h.writeAll (output ++ more) = (h.writeAll output).writeAll more :=
  List.foldl_append

theorem Holds.writeAll (hholds : h.Holds bound output) (more : List Output) :
    (h.writeAll more).Holds bound (output ++ more) := by
  induction more generalizing h output with
  | nil => rwa [List.append_nil]
  | cons o rest ih =>
    have hrest := ih (hholds.write o)
    rwa [List.append_assoc, List.singleton_append] at hrest

theorem Holds.length_entries (hholds : h.Holds bound output) :
    h.entries.length = min bound (Output.sinceClear output).length := by
  rw [hholds.entries, List.rtake, List.length_drop]
  omega

/-- Fewer than 2^64 changes never lead back to a revision. -/
theorem Holds.eq_nil_of_revision_eq (hholds : h.Holds bound output) {more : List Output}
    (hmore : more.length < 2 ^ 64) (hrevision : (h.writeAll more).revision = h.revision) :
    more = [] := by
  rw [(hholds.writeAll more).revision, hholds.revision, ← UInt64.toNat_inj, UInt64.toNat_ofNat',
    UInt64.toNat_ofNat', List.length_append] at hrevision
  rw [← List.length_eq_zero_iff]
  omega

/-- A history that has taken any output, in any capacity, holds the newest of the lines that were
written since the last wish to clear, each with its severity: as many as fit, and at least one. Its
revision counts the changes, so as long as there are fewer than 2^64 of them, the same revision
means the same lines. -/
theorem newest_lines_kept (capacity : Nat) (output : List Output) :
    let h := (empty capacity).writeAll output
    let lines := Output.sinceClear output
    h.entries = lines.rtake (max capacity 1) ∧
    h.entries.length = min (max capacity 1) lines.length ∧
    h.revision = UInt64.ofNat output.length ∧
    ∀ more : List Output, more.length < 2 ^ 64 → (h.writeAll more).revision = h.revision →
      (h.writeAll more).entries = h.entries := by
  intro h lines
  have hholds : h.Holds (max capacity 1) output := (holds_empty capacity).writeAll output
  refine ⟨hholds.entries, hholds.length_entries, hholds.revision, fun more hmore hrevision => ?_⟩
  rw [hholds.eq_nil_of_revision_eq hmore hrevision]
  rfl

/-- A history without capacity holds one line, and a wish to clear takes back what was in front of
it. -/
theorem newest_lines_kept_one :
    let output : List Output := [.line ⟨.warn, "a"⟩, .clear, .info "b", .error "c"]
    let h := (empty 0).writeAll output
    let more : List Output := []
    h.entries = [⟨.error, "c"⟩] ∧ h.revision = 4 ∧
      more.length < 2 ^ 64 ∧ (h.writeAll more).revision = h.revision ∧
      (h.writeAll more).entries = h.entries := by
  intro output h more
  obtain ⟨hentries, -, hrevision, hsame⟩ := newest_lines_kept 0 output
  have hmore : more.length < 2 ^ 64 := by decide
  refine ⟨?_, ?_, hmore, rfl, hsame more hmore rfl⟩
  · rw [hentries]
    rfl
  · rw [hrevision]
    rfl

end History

end DebugConsole
