import DebugConsole.Proofs.Command.ActionLemmas
import DebugConsole.Proofs.Command.Tables

/-!
# Dispatch

Which handler a line reaches, and with which words, for every table and every line
(`line_dispatched`).

- **The cursor** (`run_pulls`): however a handler takes its words, one by one or all at once, it
  gets them in order, each once, and empty answers behind the last.
- **The line** (`execute_eq_run`, `execute_congr`): only the words of a line count, and whether
  there is anything but white space.
- **The handler** (`run_of_answers`, `run_of_unknown`): that of the one command which has the first
  word as a name, or none.
-/

namespace DebugConsole

/-! ## The cursor -/

/-- A way to take words from the arguments: the next one, or all that are left. -/
inductive Pull where
  | next | rest
  deriving DecidableEq

/-- What was taken; the next word behind the last one is empty. -/
inductive Pulled where
  | word (w : String)
  | words (ws : List String)

/-- The words that were taken. -/
def Pulled.tokens : Pulled → List String
  | .word w => if w = "" then [] else [w]
  | .words ws => ws

namespace Pull

/-- What a handler does to take words. -/
def action : Pull → Action Pulled
  | .next => do return .word (← Action.nextArgument)
  | .rest => do return .words (← Action.restArguments)

/-- What is taken from the words that are left. -/
def answer (left : List String) : Pull → Pulled
  | .next => .word (left.headD "")
  | .rest => .words left

/-- The words that are left behind the first `k` of some pulls. -/
def leftAfter (words : List String) (pulls : List Pull) (k : Nat) : List String :=
  if .rest ∈ pulls.take k then [] else words.drop k

@[simp] theorem leftAfter_zero (words : List String) (pulls : List Pull) :
    leftAfter words pulls 0 = words := by
  simp [leftAfter]

@[simp] theorem leftAfter_nil (pulls : List Pull) (k : Nat) : leftAfter [] pulls k = [] := by
  simp [leftAfter]

theorem leftAfter_next (words : List String) (pulls : List Pull) (k : Nat) :
    leftAfter words (.next :: pulls) (k + 1) = leftAfter (words.drop 1) pulls k := by
  simp [leftAfter]

theorem leftAfter_rest (words : List String) (pulls : List Pull) (k : Nat) :
    leftAfter words (.rest :: pulls) (k + 1) = [] := by
  simp [leftAfter]

/-- Words that are taken from some words, with those that are left in the end. -/
structure Takes (words : List String) (pulls : List Pull) (pulled : List Pulled)
    (left : List String) : Prop where
  /-- The words are taken in order, none is lost and none comes twice. -/
  tokens : pulled.flatMap Pulled.tokens ++ left = words
  answer (k : Nat) : pulled[k]? = pulls[k]?.map (answer (leftAfter words pulls k))

theorem Takes.nil (words : List String) : Takes words [] [] words :=
  ⟨by simp, by simp⟩

theorem Takes.next {words : List String} {pulls : List Pull} {pulled : List Pulled}
    {left : List String} (hwords : "" ∉ words) (h : Takes (words.drop 1) pulls pulled left) :
    Takes words (.next :: pulls) (.word (words.headD "") :: pulled) left := by
  refine ⟨?_, fun k => ?_⟩
  · rw [List.flatMap_cons, List.append_assoc, h.tokens]
    cases words with
    | nil => simp [Pulled.tokens]
    | cons word rest =>
      have hword : word ≠ "" := fun hempty => hwords (by simp [hempty])
      simp [Pulled.tokens, hword]
  · cases k with
    | zero => simp [Pull.answer]
    | succ k => simp only [List.getElem?_cons_succ, h.answer k, leftAfter_next]

theorem Takes.rest {words : List String} {pulls : List Pull} {pulled : List Pulled}
    {left : List String} (h : Takes [] pulls pulled left) :
    Takes words (.rest :: pulls) (.words words :: pulled) left := by
  refine ⟨?_, fun k => ?_⟩
  · rw [List.flatMap_cons, List.append_assoc, h.tokens]
    simp [Pulled.tokens]
  · cases k with
    | zero => simp [Pull.answer]
    | succ k => simp only [List.getElem?_cons_succ, h.answer k, leftAfter_rest, leftAfter_nil]

end Pull

/-- A handler that takes its words in any way gets them in order, and changes nothing else. -/
theorem run_pulls (c : Context) (hwords : "" ∉ c.arguments.words) (pulls : List Pull) :
    ∃ pulled left, (pulls.mapM Pull.action).run c =
        .done (.ok pulled, { c with arguments := ⟨left⟩ }) ∧
      Pull.Takes c.arguments.words pulls pulled left := by
  induction pulls generalizing c with
  | nil => exact ⟨[], c.arguments.words, rfl, .nil _⟩
  | cons pull pulls ih =>
    rw [List.mapM_cons]
    cases pull with
    | next =>
      obtain ⟨pulled, left, hrun, htakes⟩ := ih { c with arguments := ⟨c.arguments.words.drop 1⟩ }
        fun hempty => hwords (List.mem_of_mem_drop hempty)
      refine ⟨_, left, ?_, htakes.next hwords⟩
      show (pulls.mapM Pull.action).run _ >>= _ = _
      rw [hrun]
      rfl
    | rest =>
      obtain ⟨pulled, left, hrun, htakes⟩ := ih { c with arguments := ⟨[]⟩ } (by simp)
      refine ⟨_, left, ?_, htakes.rest⟩
      show (pulls.mapM Pull.action).run _ >>= _ = _
      rw [hrun]
      rfl

namespace Console

/-! ## The line -/

/-- The words of a line tell whether it is blank: the spaces between them always are. -/
theorem all_isBlank_iff {cs : List Char} {tokens : List String}
    (h : Text.Parted (· == ' ') cs tokens) :
    cs.all isBlank = true ↔ ∀ token ∈ tokens, token.toList.all isBlank = true := by
  have hspace {c : Char} (hc : (c == ' ') = true) : isBlank c = true := by
    obtain rfl := eq_of_beq hc
    rfl
  induction h with
  | nil => simp
  | separator hc _ ih => simpa [hspace hc] using ih
  | last => simp
  | run _ _ hc _ ih =>
    rw [List.all_append, List.all_cons, hspace hc, Bool.true_and, Bool.and_eq_true]
    simpa using fun _ => ih

theorem isBlankLine_iff {line : String} {tokens : List String}
    (h : Text.Parted (· == ' ') line.toList tokens) :
    Text.isBlankLine line = true ↔ ∀ token ∈ tokens, token.toList.all isBlank = true :=
  all_isBlank_iff h

variable {t : CommandTable (Action Unit)} {s : Session} {line token : String} {rest : List String}

theorem execute_blank (h : Text.isBlankLine line = true) :
    execute t s line = .done ⟨.continue, s, []⟩ :=
  if_pos h

theorem execute_eq_run (hline : Text.isBlankLine line = false)
    (h : Text.Parted (· == ' ') line.toList (token :: rest)) :
    execute t s line = run t s token rest := by
  have hwords : Text.words line = token :: rest := Text.runs_iff.mpr h
  rw [execute, if_neg (by simp [hline]), hwords]

/-- Lines of the same words lead to the same. -/
theorem execute_congr {line' : String} {tokens : List String}
    (h : Text.Parted (· == ' ') line.toList tokens)
    (h' : Text.Parted (· == ' ') line'.toList tokens) : execute t s line' = execute t s line := by
  have hblank : Text.isBlankLine line' = Text.isBlankLine line := by
    rw [Bool.eq_iff_iff, isBlankLine_iff h, isBlankLine_iff h']
  have hwords : Text.words line' = Text.words line := by
    rw [show Text.words line = tokens from Text.runs_iff.mpr h]
    exact Text.runs_iff.mpr h'
  rw [execute, execute, hblank, hwords]

/-- A line that is not blank has a first word. -/
theorem exists_words (hline : Text.isBlankLine line = false) :
    ∃ token rest, Text.Parted (· == ' ') line.toList (token :: rest) := by
  have hparted := Text.parted_words line
  cases hwords : Text.words line with
  | nil =>
    have hblank := (isBlankLine_iff (hwords ▸ hparted)).mpr (by simp)
    rw [hline] at hblank
    cases hblank
  | cons token rest => exact ⟨token, rest, hwords ▸ hparted⟩

/-! ## The handler -/

/-- One entry of the commands has the name, and it is the only one. -/
def AnsweredBy (commands : List (Command (Action Unit))) (name : String)
    (command : Command (Action Unit)) : Prop :=
  ∃ i, commands[i]? = some command ∧ command.Answers name ∧
    ∀ (j : Nat) (other : Command (Action Unit)), commands[j]? = some other →
      other.Answers name → j = i

theorem answeredBy_of_mem {command : Command (Action Unit)} (hmem : command ∈ t.commands)
    (hname : command.Answers token) : AnsweredBy t.commands token command := by
  obtain ⟨i, hi⟩ := List.mem_iff_getElem?.mp hmem
  exact ⟨i, hi, hname, fun j other hj hother => CommandTable.answers_unique hj hi hother hname⟩

theorem run_of_answers {command : Command (Action Unit)} (hmem : command ∈ t.commands)
    (hname : command.Answers token) :
    run t s token rest = command.handler.dialogue (.start t.help s rest) := by
  obtain ⟨i, hi⟩ := List.mem_iff_getElem?.mp hmem
  rw [run, CommandTable.find?_eq_some_of_answers hi hname]
  rfl

theorem run_of_unknown (h : ∀ command ∈ t.commands, ¬ command.Answers token) :
    run t s token rest =
      .done ⟨.continue, s, [.error ("Unknown command \"" ++ token ++ "\"")]⟩ := by
  rw [run, CommandTable.find?_eq_none_iff.mpr h]

/-- A name that is typed in other letter case can be typed as one word as well. -/
theorem isName_congr {name typed : String} (h : Text.sameName typed name = true)
    (hname : CommandTable.isName name = true) : CommandTable.isName typed = true := by
  have hupper := Text.sameName_iff.mp h
  rw [CommandTable.isName_iff] at hname ⊢
  obtain ⟨hne, hblank⟩ := hname
  refine ⟨?_, ?_⟩
  · rintro rfl
    rw [String.toList_empty, List.map_nil, eq_comm, List.map_eq_nil_iff,
      String.toList_eq_nil_iff] at hupper
    exact hne hupper
  · have hmap (u : String) : (∀ c ∈ u.toList.map Char.toUpper, isBlank c = false) ↔
        ∀ c ∈ u.toList, isBlank c = false := by
      simp [isBlank_toUpper]
    rwa [← hmap, hupper, hmap]

/-- Spaces around a name, and whatever words behind it. -/
theorem execute_spaced {command : Command (Action Unit)} (hmem : command ∈ t.commands)
    {name typed before tail : String} (hname : name ∈ command.names)
    (htyped : Text.sameName typed name = true) (hbefore : ∀ c ∈ before.toList, c = ' ')
    (htail : tail = "" ∨ ∃ more, tail.toList = ' ' :: more) :
    execute t s (before ++ typed ++ tail) =
      command.handler.dialogue (.start t.help s (Text.words tail)) := by
  have hcan : CommandTable.isName typed = true :=
    isName_congr htyped (t.wellNamed.typable command hmem name hname)
  have hword : Text.IsWord typed := CommandTable.isWord_of_isName hcan
  have hspaces : ∀ c ∈ before.toList, (c == ' ') = true := by simpa using hbefore
  have hparted : Text.Parted (· == ' ') (before ++ typed ++ tail).toList
      (typed :: Text.words tail) := by
    rw [String.append_assoc, String.toList_append]
    exact (hword.parted_append htail).separators hspaces
  have hline : Text.isBlankLine (before ++ typed ++ tail) = false := by
    obtain ⟨hne, hblank⟩ := CommandTable.isName_iff.mp hcan
    obtain ⟨c, hc⟩ := List.exists_mem_of_ne_nil typed.toList (by simpa using hne)
    rw [Text.isBlankLine, List.all_eq_false]
    exact ⟨c, by simp [hc], by simp [hblank c hc]⟩
  rw [execute_eq_run hline hparted]
  exact run_of_answers hmem ⟨name, hname, by rw [Text.sameName_comm, htyped]⟩

/-- What a line leads to, by its words. -/
structure Dispatched (commands : List (Command (Action Unit))) (t : CommandTable (Action Unit))
    (s : Session) (line : String) : Prop where
  blank (h : ∀ c ∈ line.toList, isBlank c = true) : execute t s line = .done ⟨.continue, s, []⟩
  words (h : ∃ c ∈ line.toList, isBlank c = false) :
    ∃ token rest, Text.Parted (· == ' ') line.toList (token :: rest)
  /-- The handler of one command runs, and nothing else does. -/
  known {token : String} {rest : List String} (h : ∃ c ∈ line.toList, isBlank c = false)
    (hwords : Text.Parted (· == ' ') line.toList (token :: rest))
    (hknown : ∃ command ∈ commands, command.Answers token) :
    ∃ command, AnsweredBy commands token command ∧
      execute t s line = command.handler.dialogue (.start t.help s rest)
  unknown {token : String} {rest : List String} (h : ∃ c ∈ line.toList, isBlank c = false)
    (hwords : Text.Parted (· == ' ') line.toList (token :: rest))
    (hunknown : ¬ ∃ command ∈ commands, command.Answers token) :
    execute t s line = .done ⟨.continue, s, [.error ("Unknown command \"" ++ token ++ "\"")]⟩
  /-- The words behind the name, for a handler that has not taken any of them yet. -/
  cursor {token : String} {rest : List String}
    (hwords : Text.Parted (· == ' ') line.toList (token :: rest)) (c : Context)
    (hc : c.arguments = ⟨rest⟩) (pulls : List Pull) :
    ∃ pulled left, (pulls.mapM Pull.action).run c =
        .done (.ok pulled, { c with arguments := ⟨left⟩ }) ∧ Pull.Takes rest pulls pulled left
  alike {tokens : List String} (hwords : Text.Parted (· == ' ') line.toList tokens)
    (line' : String) (hwords' : Text.Parted (· == ' ') line'.toList tokens) :
    execute t s line' = execute t s line

/-- On every table, a line of white space does nothing. Any other line runs the handler of the one
command that has its first word as a name, in any letter case, on the words behind it, or reports
that there is none. So every name of a table reaches its command, however it is spaced. -/
theorem line_dispatched {commands : List (Command (Action Unit))} {t : CommandTable (Action Unit)}
    (hbuild : CommandTable.build commands = .ok t) (s : Session) (line : String) :
    Dispatched commands t s line ∧
    ∀ command ∈ commands, ∀ name ∈ command.names, ∀ typed before tail : String,
      Text.sameName typed name = true → (∀ c ∈ before.toList, c = ' ') →
      (tail = "" ∨ ∃ more, tail.toList = ' ' :: more) →
        execute t s (before ++ typed ++ tail) =
          command.handler.dialogue (.start t.help s (Text.words tail)) := by
  obtain ⟨rfl, -⟩ := CommandTable.build_ok_iff.mp hbuild
  have hblank : (∃ c ∈ line.toList, isBlank c = false) → Text.isBlankLine line = false := by
    rintro ⟨c, hc, hblank⟩
    rw [Text.isBlankLine, List.all_eq_false]
    exact ⟨c, hc, by simp [hblank]⟩
  refine ⟨?_, fun command hmem name hname typed before tail htyped hbefore htail =>
    execute_spaced hmem hname htyped hbefore htail⟩
  constructor
  case blank => exact fun h => execute_blank (List.all_eq_true.mpr h)
  case words => exact fun h => exists_words (hblank h)
  case known =>
    rintro token rest h hwords ⟨command, hmem, hname⟩
    refine ⟨command, answeredBy_of_mem hmem hname, ?_⟩
    rw [execute_eq_run (hblank h) hwords, run_of_answers hmem hname]
  case unknown =>
    intro token rest h hwords hunknown
    rw [execute_eq_run (hblank h) hwords, run_of_unknown]
    exact fun command hmem hname => hunknown ⟨command, hmem, hname⟩
  case cursor =>
    intro token rest hwords c hc pulls
    have hempty : "" ∉ rest := fun h => (hwords.of_mem (List.mem_cons_of_mem _ h)).1 rfl
    have hpulls := run_pulls c (by simpa [hc] using hempty) pulls
    rwa [hc] at hpulls
  case alike => exact fun hwords line' hwords' => execute_congr hwords hwords'

/-- A name in mixed case between spaces reaches its command, with the word behind it. -/
theorem line_dispatched_spaced :
    let s : Session := { resolve := fun _ => none, codeSize := .bits16 }
    CommandTable.build Builtin.commands = .ok builtinTable ∧
      execute builtinTable s "  gN    05  " =
        Builtin.stepMultiple.dialogue (.start builtinTable.help s ["05"]) := by
  intro s
  have hbuild : CommandTable.build Builtin.commands = .ok builtinTable :=
    CommandTable.build_ok_iff.mpr ⟨rfl, builtinTable.wellNamed⟩
  obtain ⟨-, hspaced⟩ := line_dispatched hbuild s ""
  have hcommand := hspaced ⟨["StepMultiple", "gn"],
    "<count> - Runs the CPU for the given number of cycles", Builtin.stepMultiple⟩
    (by simp [Builtin.commands]) "gn" (by simp) "gN" "  " "    05  " (by decide +kernel) (by simp)
    (.inr ⟨_, rfl⟩)
  exact ⟨hbuild, hcommand⟩

end Console

end DebugConsole
