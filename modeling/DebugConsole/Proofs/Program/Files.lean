import DebugConsole.Proofs.Command.Orders
import DebugConsole.Proofs.Symbols.Definitions

/-!
# Making a file and writing to it

Making a file changes one place of a tree, and so does writing to it; the path leads there before
and after (`keeps_of_create`).

- **Paths** (`LeadsTo`): the directories on the way to a place are not the place, so a path still
  leads there when a file is put there (`LeadsTo.put`).
- **Reading, making and writing** (`LeadsTo.read`, `of_create`, `LeadsTo.append`): all depend on
  what is at the place.
- **Writing on** (`append_append_of_create`): one text behind another.
-/

namespace DebugConsole.FileTree

variable {t t' : FileTree} {path : String} {place : Place} {bytes : List UInt8}

/-! ## Paths -/

/-- The path leads to the place behind directories, whether there is anything or not. -/
def LeadsTo (t : FileTree) (path : String) (place : Place) : Prop :=
  ∃ r, t.route path = .ok r ∧ r.slashed = false ∧ t.follow r = .ok place

theorem node?_put (h : t.node? place ≠ some .directory) (bytes : List UInt8) (other : Place) :
    (t.put place bytes).node? other =
      if other = place then some (.file bytes) else t.node? other := by
  have hplace : place ≠ [] := by
    rintro rfl
    exact h rfl
  cases other with
  | nil =>
    rw [if_neg hplace.symm]
    rfl
  | cons name rest => exact lookup_replace t.nodes place (name :: rest) (.file bytes)

theorem put_put (t : FileTree) (place : Place) (first second : List UInt8) :
    (t.put place first).put place second = t.put place second := by
  simp [put]

theorem enter_cons_iff {directory last : Place} {part : String} {rest : List String} :
    t.enter directory (part :: rest) = .ok last ↔ ∃ next, child directory part = .ok next ∧
      t.node? next = some .directory ∧ t.enter next rest = .ok last := by
  rw [enter]
  cases child directory part with
  | error e => exact ⟨nofun, nofun⟩
  | ok next =>
    simp only [bind, Except.bind, Except.ok.injEq, exists_eq_left']
    cases t.node? next with
    | none => exact ⟨nofun, nofun⟩
    | some node => cases node <;> simp [throw, throwThe, MonadExceptOf.throw]

theorem enter_put (h : t.node? place ≠ some .directory) {parts : List String}
    {directory last : Place} (henter : t.enter directory parts = .ok last) :
    (t.put place bytes).enter directory parts = .ok last := by
  induction parts generalizing directory with
  | nil => exact henter
  | cons part rest ih =>
    obtain ⟨next, hchild, hnext, hrest⟩ := enter_cons_iff.mp henter
    have hne : next ≠ place := fun heq => h (heq ▸ hnext)
    have hkept : (t.put place bytes).node? next = some .directory := by
      rw [node?_put h, if_neg hne, hnext]
    exact enter_cons_iff.mpr ⟨next, hchild, hkept, ih hrest⟩

/-- A path leads to the same place when a file is put there. -/
theorem LeadsTo.put (hleads : t.LeadsTo path place) (h : t.node? place ≠ some .directory)
    (bytes : List UInt8) : (t.put place bytes).LeadsTo path place := by
  obtain ⟨r, hroute, hslashed, hfollow⟩ := hleads
  refine ⟨r, hroute, hslashed, ?_⟩
  obtain ⟨directory, henter, hchild⟩ := bind_ok hfollow
  unfold follow
  rw [enter_put h henter]
  exact hchild

/-! ## Reading, making and writing -/

/-- What reading a file gives is at the place that its path leads to. -/
theorem LeadsTo.read (h : t.LeadsTo path place) :
    t.read path = match t.node? place with
      | some (.file bytes) => .ok bytes
      | some .sink => .ok []
      | some .directory => .error .isDirectory
      | none => .error .notFound := by
  obtain ⟨r, hroute, hslashed, hfollow⟩ := h
  simp only [FileTree.read, hroute, hslashed, hfollow, bind, Except.bind]
  rfl

theorem LeadsTo.isFile_iff (h : t.LeadsTo path place) :
    t.isFile path = true ↔ ∃ bytes, t.node? place = some (.file bytes) := by
  obtain ⟨r, hroute, hslashed, hfollow⟩ := h
  simp only [FileTree.isFile, hroute, hslashed, hfollow, bind, Except.bind, pure, Except.pure]
  cases t.node? place with
  | none => simp
  | some node => cases node <;> simp

/-- What is written goes behind what is in the file. -/
theorem LeadsTo.append {before : List UInt8} (h : t.LeadsTo path place)
    (hnode : t.node? place = some (.file before)) (bytes : List UInt8) :
    t.append path bytes = t.put place (before ++ bytes) := by
  obtain ⟨r, hroute, -, hfollow⟩ := h
  simp only [FileTree.append, hroute, hfollow, hnode, bind, Except.bind]

theorem LeadsTo.append_sink (h : t.LeadsTo path place) (hnode : t.node? place = some .sink)
    (bytes : List UInt8) : t.append path bytes = t := by
  obtain ⟨r, hroute, -, hfollow⟩ := h
  simp only [FileTree.append, hroute, hfollow, hnode, bind, Except.bind]

theorem LeadsTo.append_put (h : t.LeadsTo path place) (hplace : t.node? place ≠ some .directory)
    (first second : List UInt8) :
    (t.put place first).append path second = t.put place (first ++ second) := by
  have hnode : (t.put place first).node? place = some (.file first) := by
    rw [node?_put hplace, if_pos rfl]
  rw [(h.put hplace first).append hnode, put_put]

theorem of_create (h : t.create path = .ok t') : ∃ place, t.LeadsTo path place ∧
    (t.node? place = some .sink ∧ t' = t ∨
      t.node? place ≠ some .directory ∧ t' = t.put place []) := by
  obtain ⟨r, hroute, h⟩ := bind_ok h
  cases hslashed : r.slashed with
  | true =>
    rw [hslashed] at h
    obtain ⟨_, -, h⟩ := bind_ok h
    cases h
  | false =>
    rw [hslashed] at h
    obtain ⟨place, hfollow, h⟩ := bind_ok h
    refine ⟨place, ⟨r, hroute, hslashed, hfollow⟩, ?_⟩
    cases hnode : t.node? place with
    | none =>
      rw [hnode] at h
      cases h
      exact .inr ⟨nofun, rfl⟩
    | some node =>
      rw [hnode] at h
      cases node with
      | directory => cases h
      | sink =>
        cases h
        exact .inl ⟨rfl, rfl⟩
      | file bytes =>
        cases h
        exact .inr ⟨nofun, rfl⟩

/-! ## Writing on -/

/-- What is written to a file that was made, whatever it is, goes to the place of the file. -/
theorem append_of_create (h : t.create path = .ok t') : ∃ place, t.LeadsTo path place ∧
    (t.node? place = some .sink ∧ (∀ bytes, t'.append path bytes = t) ∨
      t.node? place ≠ some .directory ∧ ∀ bytes, t'.append path bytes = t.put place bytes) := by
  obtain ⟨place, hleads, ⟨hsink, rfl⟩ | ⟨hplace, rfl⟩⟩ := of_create h
  · exact ⟨place, hleads, .inl ⟨hsink, hleads.append_sink hsink⟩⟩
  · exact ⟨place, hleads, .inr ⟨hplace, hleads.append_put hplace []⟩⟩

/-- One text behind another is both at once. -/
theorem append_append_of_create (h : t.create path = .ok t') (first second : List UInt8) :
    (t'.append path first).append path second = t'.append path (first ++ second) := by
  obtain ⟨place, hleads, ⟨hsink, happend⟩ | ⟨hplace, happend⟩⟩ := append_of_create h
  · rw [happend, happend, hleads.append_sink hsink]
  · rw [happend, happend, hleads.append_put hplace]

theorem append_nil_of_create (h : t.create path = .ok t') : t'.append path [] = t' := by
  obtain ⟨place, hleads, ⟨hsink, rfl⟩ | ⟨hplace, rfl⟩⟩ := of_create h
  · exact hleads.append_sink hsink []
  · exact hleads.append_put hplace [] []

/-- The path leads to a file with these contents, or to a device that keeps nothing, as before; and
no other place of the tree is any different. -/
structure Keeps (before : FileTree) (path : String) (bytes : List UInt8) (after : FileTree) :
    Prop where
  file : after.isFile path = true ∨ after = before
  read : after.read path = .ok (if after.isFile path then bytes else [])
  others : ∃ place, before.LeadsTo path place ∧ after.LeadsTo path place ∧
    ∀ other ≠ place, after.node? other = before.node? other

theorem keeps_of_create (h : t.create path = .ok t') (bytes : List UInt8) :
    t.Keeps path bytes (t'.append path bytes) := by
  obtain ⟨place, hleads, ⟨hsink, happend⟩ | ⟨hplace, happend⟩⟩ := append_of_create h
  · have hfile : t.isFile path = false := by
      rw [← Bool.not_eq_true, hleads.isFile_iff, hsink]
      exact nofun
    rw [happend]
    refine ⟨.inr rfl, ?_, place, hleads, hleads, fun _ _ => rfl⟩
    simp only [hleads.read, hsink, hfile, Bool.false_eq_true, if_false]
  · have hleads' := hleads.put hplace bytes
    have hnode : (t.put place bytes).node? place = some (.file bytes) := by
      rw [node?_put hplace, if_pos rfl]
    have hfile : (t.put place bytes).isFile path = true := hleads'.isFile_iff.mpr ⟨bytes, hnode⟩
    rw [happend]
    refine ⟨.inl hfile, ?_, place, hleads, hleads', fun other hother => ?_⟩
    · simp only [hleads'.read, hnode, hfile, if_true]
    · rw [node?_put hplace, if_neg hother]

end DebugConsole.FileTree
