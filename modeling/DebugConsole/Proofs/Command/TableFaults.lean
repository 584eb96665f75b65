import DebugConsole.Proofs.Command.Tables

/-!
# Refused command tables

Which offence a refused list of commands is reported for: the first one in the order of the commands
and of their names (`FirstOffence`).

- **No offence** (`Faultless`): the commands up to a place have names, and all names up to that
  place can be typed and are different up to letter case.
- **Scans** (`nameOffence_eq_some_iff`, `offence_eq_some_iff`): an offence is reported at the place
  in front of which there is none.
- **Tables** (`build_exact`): a list of commands is a table if there is no offence in it at all, and
  otherwise its first offence is reported.
-/

namespace DebugConsole.CommandTable

variable {η : Type} {taken : List String} {e : TableError}

/-- A name that is one word: not empty, and without white space. -/
def Typable (name : String) : Prop :=
  name ≠ "" ∧ ∀ c ∈ name.toList, isBlank c = false

/-- There is no offence in some commands and in some names of the command behind them. -/
structure Faultless (commands : List (Command η)) (names : List String) : Prop where
  named : ∀ command ∈ commands, command.names ≠ []
  typable : ∀ name ∈ commands.flatMap Command.names ++ names, Typable name
  distinct : (commands.flatMap Command.names ++ names).Pairwise
    fun known name => Text.sameName known name = false

/-- The first offence in a list of commands, when the names of each are looked at in order. -/
inductive FirstOffence (commands : List (Command η)) : TableError → Prop where
  | noNames {before after : List (Command η)} {command : Command η}
    (hplace : commands = before ++ command :: after) (hbefore : Faultless before [])
    (hnone : command.names = []) : FirstOffence commands (.noNames command.description)
  | badName {before after : List (Command η)} {command : Command η} {earlier later : List String}
    {name : String} (hplace : commands = before ++ command :: after)
    (hname : command.names = earlier ++ name :: later) (hbefore : Faultless before earlier)
    (hbad : ¬ Typable name) : FirstOffence commands (.badName name)
  | duplicate {before after : List (Command η)} {command : Command η} {earlier later : List String}
    {name known : String} (hplace : commands = before ++ command :: after)
    (hname : command.names = earlier ++ name :: later) (hbefore : Faultless before earlier)
    (htypable : Typable name) (hknown : known ∈ before.flatMap Command.names ++ earlier)
    (hsame : Text.sameName known name = true) : FirstOffence commands (.duplicate name)

/-! ## Scans -/

/-- A place in a list is its beginning, or a place behind that. -/
theorem exists_place_cons {α : Type} {P : List α → α → List α → Prop} {a : α} {as : List α} :
    (∃ before b after, a :: as = before ++ b :: after ∧ P before b after) ↔
      P [] a as ∨ ∃ before b after, as = before ++ b :: after ∧ P (a :: before) b after := by
  constructor
  · rintro ⟨before, b, after, hplace, h⟩
    rcases List.cons_eq_append_iff.mp hplace with ⟨rfl, hb⟩ | ⟨before, rfl, rfl⟩
    · obtain ⟨rfl, rfl⟩ := List.cons.inj hb
      exact .inl h
    · exact .inr ⟨before, b, after, rfl, h⟩
  · rintro (h | ⟨before, b, after, rfl, h⟩)
    · exact ⟨[], a, as, rfl, h⟩
    · exact ⟨a :: before, b, after, rfl, h⟩

/-- What is wrong with one name behind others. -/
@[mk_iff]
inductive NameFault (taken : List String) (name : String) : TableError → Prop where
  | badName (h : isName name = false) : NameFault taken name (.badName name)
  | duplicate (hname : isName name = true) (h : Text.upper name ∈ taken) :
    NameFault taken name (.duplicate name)

theorem nameOffence_eq_some_iff {names : List String} :
    nameOffence taken names = some e ↔ ∃ earlier name later, names = earlier ++ name :: later ∧
      nameOffence taken earlier = none ∧ NameFault (earlier.map Text.upper ++ taken) name e := by
  induction names generalizing taken with
  | nil => simp [nameOffence]
  | cons name rest ih =>
    rw [exists_place_cons]
    simp only [nameOffence, List.map_nil, List.nil_append, true_and]
    cases hname : isName name with
    | false => simp [nameFault_iff, hname, eq_comm (b := e)]
    | true =>
      by_cases htaken : Text.upper name ∈ taken
      · simp [nameFault_iff, hname, htaken, eq_comm (b := e)]
      · have hnone : ¬ NameFault taken name e := by simp [nameFault_iff, hname, htaken]
        -- Behind the name, it is one of the names taken.
        have hbehind (earlier : List String) (other : String) :
            NameFault (earlier.map Text.upper ++ Text.upper name :: taken) other e ↔
              NameFault ((name :: earlier).map Text.upper ++ taken) other e := by
          simp [nameFault_iff, or_left_comm]
        simp only [Bool.not_true, Bool.false_eq_true, if_false, htaken, hnone, false_or, ih,
          hbehind]

/-- The names taken count, not their order. -/
theorem nameOffence_congr {taken' : List String} (h : ∀ key, key ∈ taken ↔ key ∈ taken')
    (names : List String) : nameOffence taken names = nameOffence taken' names := by
  induction names generalizing taken taken' with
  | nil => rfl
  | cons name rest ih =>
    have hrest : nameOffence (Text.upper name :: taken) rest =
        nameOffence (Text.upper name :: taken') rest := ih (by simp [h])
    simp only [nameOffence, h, hrest]

/-- What is wrong with one command behind others. -/
@[mk_iff]
inductive CommandFault (taken : List String) (command : Command η) : TableError → Prop where
  | noNames (h : command.names = []) : CommandFault taken command (.noNames command.description)
  | name {fault : TableError} (h : nameOffence taken command.names = some fault) :
    CommandFault taken command fault

theorem offence_eq_some_iff {commands : List (Command η)} :
    offence taken commands = some e ↔ ∃ before command after,
      commands = before ++ command :: after ∧ offence taken before = none ∧
        CommandFault (before.flatMap Command.keys ++ taken) command e := by
  induction commands generalizing taken with
  | nil => simp [offence]
  | cons command rest ih =>
    rw [exists_place_cons]
    simp only [offence, List.flatMap_nil, List.nil_append, true_and]
    by_cases hnames : command.names = []
    · simp [commandFault_iff, hnames, nameOffence, eq_comm (b := e)]
    · cases hoffence : nameOffence taken command.names with
      | some fault => simp [commandFault_iff, hnames, hoffence, eq_comm (b := e)]
      | none =>
        have hnone : ¬ CommandFault taken command e := by
          simp [commandFault_iff, hnames, hoffence]
        -- Behind the command, its names are among the names taken.
        have hbehind (before : List (Command η)) (other : Command η) :
            CommandFault (before.flatMap Command.keys ++ (command.keys ++ taken)) other e ↔
              CommandFault ((command :: before).flatMap Command.keys ++ taken) other e := by
          have hkeys (key : String) : key ∈ before.flatMap Command.keys ++ (command.keys ++ taken) ↔
              key ∈ (command :: before).flatMap Command.keys ++ taken := by
            simp [or_left_comm]
          rw [commandFault_iff, commandFault_iff, nameOffence_congr hkeys]
        simp only [List.isEmpty_iff, hnames, if_false, hnone, false_or, ← hbehind]
        exact ih

/-! ## Places without offence -/

theorem flatMap_keys (commands : List (Command η)) :
    commands.flatMap Command.keys = (commands.flatMap Command.names).map Text.upper := by
  rw [List.map_flatMap]
  rfl

theorem faultless_iff {commands : List (Command η)} {names : List String} :
    Faultless commands names ↔ offence [] commands = none ∧
      nameOffence (commands.flatMap Command.keys) names = none := by
  have hdistinct : ((commands.flatMap Command.names ++ names).Pairwise
      fun known name => Text.sameName known name = false) ↔
      (commands.flatMap Command.keys).Nodup ∧ (names.map Text.upper).Nodup ∧
        (names.map Text.upper).Disjoint (commands.flatMap Command.keys) := by
    rw [flatMap_keys, List.disjoint_comm, ← List.nodup_append', ← List.map_append, List.Nodup,
      List.pairwise_map]
    simp [Text.sameName]
  have htypable (name : String) : isName name = true ↔ Typable name := isName_iff
  rw [offence_eq_none_iff, nameOffence_eq_none_iff]
  constructor
  · rintro ⟨hnamed, hnames, h⟩
    obtain ⟨hcommands, hnext, hdisjoint⟩ := hdistinct.mp h
    obtain ⟨hknown, hlast⟩ := List.forall_mem_append.mp hnames
    refine ⟨⟨⟨hnamed, fun command hcommand name hname => ?_, hcommands⟩, by simp⟩,
      fun name hname => (htypable name).mpr (hlast name hname), hnext, hdisjoint⟩
    exact (htypable name).mpr (hknown name (List.mem_flatMap.mpr ⟨command, hcommand, hname⟩))
  · rintro ⟨⟨hwell, -⟩, hlast, hnext, hdisjoint⟩
    refine ⟨hwell.named, List.forall_mem_append.mpr ⟨fun name hname => ?_, fun name hname => ?_⟩,
      hdistinct.mpr ⟨hwell.distinct, hnext, hdisjoint⟩⟩
    · obtain ⟨command, hcommand, hname⟩ := List.mem_flatMap.mp hname
      exact (htypable name).mp (hwell.typable command hcommand name hname)
    · exact (htypable name).mp (hlast name hname)

theorem offence_eq_some_iff_firstOffence {commands : List (Command η)} :
    offence [] commands = some e ↔ FirstOffence commands e := by
  have htypable (name : String) : isName name = true ↔ Typable name := isName_iff
  have hknown (before : List (Command η)) (earlier : List String) (name : String) :
      Text.upper name ∈ earlier.map Text.upper ++ before.flatMap Command.keys ↔
        ∃ known ∈ before.flatMap Command.names ++ earlier, Text.sameName known name = true := by
    rw [flatMap_keys, ← List.map_append, List.mem_map]
    refine exists_congr fun known => and_congr ?_ ?_
    · rw [List.mem_append, List.mem_append, or_comm]
    · rw [Text.sameName, beq_iff_eq]
  rw [offence_eq_some_iff]
  constructor
  · rintro ⟨before, command, after, hplace, hbefore, h⟩
    rw [List.append_nil] at h
    cases h with
    | noNames hnone => exact .noNames hplace (faultless_iff.mpr ⟨hbefore, rfl⟩) hnone
    | name h =>
      obtain ⟨earlier, name, later, hname, hearlier, h⟩ := nameOffence_eq_some_iff.mp h
      have hfaultless : Faultless before earlier := faultless_iff.mpr ⟨hbefore, hearlier⟩
      cases h with
      | badName hbad => exact .badName hplace hname hfaultless (by simp [← htypable, hbad])
      | duplicate hgood htaken =>
        obtain ⟨known, hmem, hsame⟩ := (hknown before earlier name).mp htaken
        exact .duplicate hplace hname hfaultless ((htypable name).mp hgood) hmem hsame
  · rintro (⟨hplace, hbefore, hnone⟩ | ⟨hplace, hname, hbefore, hbad⟩ |
      ⟨hplace, hname, hbefore, hgood, hmem, hsame⟩)
    · obtain ⟨hoffence, -⟩ := faultless_iff.mp hbefore
      exact ⟨_, _, _, hplace, hoffence, .noNames hnone⟩
    · obtain ⟨hoffence, hearlier⟩ := faultless_iff.mp hbefore
      refine ⟨_, _, _, hplace, hoffence, .name (nameOffence_eq_some_iff.mpr ?_)⟩
      rw [List.append_nil]
      exact ⟨_, _, _, hname, hearlier, .badName (by simpa [← htypable] using hbad)⟩
    · obtain ⟨hoffence, hearlier⟩ := faultless_iff.mp hbefore
      refine ⟨_, _, _, hplace, hoffence, .name (nameOffence_eq_some_iff.mpr ?_)⟩
      rw [List.append_nil]
      exact ⟨_, _, _, hname, hearlier,
        .duplicate ((htypable _).mpr hgood) ((hknown _ _ _).mpr ⟨_, hmem, hsame⟩)⟩

/-- A list of commands is a table exactly if there is no offence in it; otherwise its first offence
is reported. -/
theorem build_exact (commands : List (Command η)) :
    ((∃ t, build commands = .ok t ∧ t.commands = commands) ↔ Faultless commands []) ∧
      ∀ e, build commands = .error e ↔ FirstOffence commands e := by
  refine ⟨?_, fun e => ?_⟩
  · rw [faultless_iff]
    unfold build
    split
    case h_1 h => simp [h, nameOffence]
    case h_2 fault h => simp [h]
  · rw [← offence_eq_some_iff_firstOffence]
    unfold build
    split
    case h_1 h => simp [h]
    case h_2 fault h => simp [h]

/-- Of several offences, the one that comes first counts, and the later spelling is named. -/
example : offence [] [⟨["g"], "Go", ()⟩, ⟨["s", "G", ""], "Step", ()⟩, ⟨[], "Help", ()⟩] =
    some (.duplicate "G") := by
  decide +kernel

end DebugConsole.CommandTable
