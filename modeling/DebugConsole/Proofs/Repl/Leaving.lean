import DebugConsole.Host.Scripted
import DebugConsole.Proofs.Console.Dispatch
import DebugConsole.Proofs.Console.Steps
import DebugConsole.Proofs.Command.Failures
import DebugConsole.Proofs.Repl.History

/-!
# Leaving the console

Nothing ends the event loop but a line that says so and the end of the input (`only_leaving_ends`).

- **Orders** (`Order.continues`): whatever a host answers, every order but one goes on.
- **Lines** (`execute_leaves`, `execute_continues`): the lines that leave are known by their first
  word. They ask nothing and write nothing.
- **Events** (`Event.Ends`): which events end the loop, said without the loop.
- **Runs** (`converse_run_append`): a run takes the steps in front of the first such event, each of
  them once, and nothing else.
-/

namespace DebugConsole

variable {σ : Type}

/-! ## Orders -/

/-- A dialogue after which the console goes on, whatever the host says. -/
inductive Dialogue.Continues : Dialogue Outcome → Prop where
  | done {o : Outcome} (h : o.proceed = .continue) : Continues (.done o)
  | ask {r : Request} {next : Except HostFailure r.Reply → Dialogue Outcome}
    (h : ∀ reply, Continues (next reply)) : Continues (.ask r next)

namespace Dialogue

theorem Continues.proceed {d : Dialogue Outcome} (h : d.Continues) (host : Host σ) (x : σ) :
    (d.converse host x).value.proceed = .continue := by
  induction h generalizing x with
  | done h => exact h
  | @ask r next _ ih => exact ih (host r x).1 (host r x).2

/-- A refused request is reported, and the console goes on. -/
theorem continues_orFail {s : Session} {r : Request} {next : r.Reply → Dialogue Outcome}
    (h : ∀ reply, (next reply).Continues) : (Dialogue.orFail s r next).Continues := by
  refine .ask fun reply => ?_
  cases reply with
  | ok reply => exact h reply
  | error e => exact .done rfl

end Dialogue

namespace Order

theorem single_continues (s : Session) (r : Request) : (single s r).Continues :=
  Dialogue.continues_orFail fun _ => .done rfl

theorem stepOverFrom_continues (s : Session) (v : Registers) (slots : List Descriptor) :
    (stepOverFrom s v slots).Continues := by
  refine Dialogue.continues_orFail fun code => ?_
  split
  · exact Dialogue.continues_orFail fun _ => .done rfl
  · exact single_continues s .stepIn

theorem continues {o : Order} (h : o ≠ .leave) (s : Session) : (o.dialogue s).Continues := by
  cases o with
  | write output => exact .done rfl
  | leave => exact absurd rfl h
  | request r => exact single_continues s r
  | disassembleHere =>
    cases hsynced : s.synced with
    | true =>
      rw [dialogue_disassembleHere hsynced]
      exact single_continues s _
    | false =>
      rw [dialogue_disassembleHere_first hsynced]
      exact Dialogue.continues_orFail fun v => single_continues (s.update v) _
  | stepOver =>
    refine Dialogue.continues_orFail fun v => ?_
    split
    · exact Dialogue.continues_orFail (stepOverFrom_continues s v)
    · exact Dialogue.continues_orFail (stepOverFrom_continues s v)

end Order

/-! ## Lines -/

namespace Console

/-- The first word of the line is one of the two names for leaving, in any letter case. -/
def Leaves (line : String) : Prop :=
  ∃ token rest, Text.Parted (· == ' ') line.toList (token :: rest) ∧
    (Text.sameName token "exit" = true ∨ Text.sameName token "quit" = true)

variable {s : Session} {line : String}

theorem execute_leaves (h : Leaves line) : execute builtinTable s line = .done ⟨.exit, s, []⟩ := by
  obtain ⟨token, rest, hwords, hname⟩ := h
  have hblank : Text.isBlankLine token = false := by
    rcases hname with hname | hname
    · rw [Text.isBlankLine_congr hname]
      decide
    · rw [Text.isBlankLine_congr hname]
      decide
  have hline : Text.isBlankLine line = false := by
    rw [Bool.eq_false_iff, Ne, isBlankLine_iff hwords]
    intro hall
    rw [Text.isBlankLine, hall token (List.mem_cons_self ..)] at hblank
    cases hblank
  rw [execute_eq_run hline hwords]
  have hmem : ⟨["exit", "quit"], "Leave the debugger", Builtin.leave⟩ ∈ builtinTable.commands := by
    simp [builtinTable, Builtin.commands]
  refine (run_of_answers hmem ?_).trans rfl
  simpa [Command.Answers, Text.sameName_comm token] using hname

/-- The command that a line calls has the first word of the line as a name. -/
theorem of_command? {command : Command (Action Unit)} {words : List String}
    (h : command? line = some (command, words)) :
    ∃ name, Text.Parted (· == ' ') line.toList (name :: words) ∧
      command ∈ Builtin.commands ∧ command.Answers name := by
  simp only [command?, Option.bind_eq_bind, Option.bind_eq_some_iff, Option.pure_def,
    Option.some.injEq, Prod.mk.injEq] at h
  obtain ⟨⟨name, words'⟩, hcall, command', hfind, rfl, rfl⟩ := h
  obtain ⟨hmem, hname⟩ := CommandTable.answers_of_find? hfind
  refine ⟨name, ?_, hmem, hname⟩
  unfold call? at hcall
  split at hcall
  · cases hcall
  · have hparted := Text.parted_words line
    split at hcall
    · cases hcall
    · rename_i hwords
      cases hcall
      rwa [hwords] at hparted

theorem leaves_of_reading (h : reading s line = .order .leave) : Leaves line := by
  obtain ⟨command, words, hcommand, hof⟩ := of_reading h
  obtain ⟨name, hwords, hmem, known, hknown, hname⟩ := of_command? hcommand
  have hnames : ∀ command ∈ Builtin.commands, Builtin.firstName command = "exit" →
      command.names = ["exit", "quit"] := by
    simp [Builtin.commands, Builtin.firstName]
  generalize hfirst : Builtin.firstName command = first at hof
  cases hof
  rw [hnames command hmem hfirst] at hknown
  rw [Text.sameName_comm] at hname
  refine ⟨name, words, hwords, ?_⟩
  simp only [List.mem_cons, List.not_mem_nil, or_false] at hknown
  rcases hknown with rfl | rfl
  · exact .inl hname
  · exact .inr hname

theorem execute_continues (h : ¬ Leaves line) : (execute builtinTable s line).Continues := by
  rw [execute_eq]
  cases hread : reading s line with
  | nothing => exact .done rfl
  | unknown name => exact .done rfl
  | refused e => exact .done rfl
  | order o =>
    refine Order.continues ?_ s
    rintro rfl
    exact h (leaves_of_reading hread)

/-- On every host, a line leaves the console just if its first word says so. -/
theorem proceed_execute_iff (host : Host σ) (x : σ) (s : Session) (line : String) :
    ((execute builtinTable s line).converse host x).value.proceed = .exit ↔ Leaves line := by
  constructor
  · intro hexit
    by_contra h
    rw [(execute_continues h).proceed host x] at hexit
    cases hexit
  · intro h
    rw [execute_leaves h]
    rfl

end Console

/-! ## Events -/

namespace Event

/-- Whether an event ends the loop: the end of the input, or a line that leaves, whatever carriage
returns are at its end. -/
def Ends : Event → Prop
  | .line text => Console.Leaves (Text.trimEnd (· = '\r') text)
  | .stopped _ => False
  | .endOfInput => True

/-- The step of the console that an event is. -/
def step? : Event → Option (Console.Step σ)
  | .line text => some (.line (Text.trimEnd (· = '\r') text))
  | .stopped r => some (.stopped r)
  | .endOfInput => none

/-- The events up to the first one that ends the loop, and the others. -/
theorem exists_ends (events : List Event) : ∃ handled later, events = handled ++ later ∧
    (∀ e ∈ handled, ¬ e.Ends) ∧ ∀ e ∈ later.head?, e.Ends := by
  induction events with
  | nil => exact ⟨[], [], rfl, by simp, by simp⟩
  | cons e rest ih =>
    by_cases he : e.Ends
    · exact ⟨[], e :: rest, rfl, by simp, by simpa using he⟩
    · obtain ⟨handled, later, rfl, hhandled, hlater⟩ := ih
      exact ⟨e :: handled, later, rfl, List.forall_mem_cons.mpr ⟨he, hhandled⟩, hlater⟩

end Event

/-! ## Runs -/

namespace Repl

/-- A run that comes to what some steps of a console come to, each of which goes on. -/
structure ConsistsOf (c : Conversation σ Result) (s : Session) (x : σ)
    (history : List (Console.Stepped σ)) : Prop where
  exchanges : c.exchanges = history.flatMap (·.exchanges)
  output : c.value.output = history.flatMap (·.output)
  session : c.value.session = Console.sessionAfter s history
  host : c.host = Console.hostAfter x history
  proceed : ∀ b ∈ history, b.proceed = .continue

namespace Loop

variable {host : Host σ} {l : Loop σ} {event : Event} {later : List Event}

/-- An event that ends the loop does nothing else. -/
theorem summary_ends (h : l.running = true) (hevent : event.Ends) (rest : List Event) :
    l.summary builtinTable host (event :: rest) = ⟨⟨l.session, []⟩, [], l.host⟩ := by
  rw [summary_cons]
  cases event with
  | line text =>
    have hexecute : l.execute builtinTable host text =
        ⟨.line text, l, [], [], { l with running := false }⟩ := by
      rw [execute, Console.execute_leaves hevent]
      rfl
    rw [handle_line h, hexecute, summary_ended rfl, Handled.followedBy_nil]
  | stopped r => exact hevent.elim
  | endOfInput => rw [handle_endOfInput h, summary_ended rfl, Handled.followedBy_nil]

/-- Every other event is one step of the console, behind which the loop runs on. -/
theorem handle_step (h : l.running = true) (hevent : ¬ event.Ends) :
    ∃ step, event.step? = some step ∧
      let b := Console.take builtinTable host l.session l.host step
      b.proceed = .continue ∧
      l.handle builtinTable host event = ⟨event, l, b.exchanges, b.output, b.session, b.host, true⟩ := by
  cases event with
  | line text =>
    have hproceed := (Console.execute_continues (s := l.session) hevent).proceed host l.host
    refine ⟨.line (Text.trimEnd (· = '\r') text), rfl, ?_⟩
    rw [handle_line h, execute, Console.take]
    generalize (Console.execute builtinTable l.session (Text.trimEnd (· = '\r') text)).converse host
      l.host = c at hproceed
    rw [hproceed]
    exact ⟨rfl, rfl⟩
  | stopped r =>
    refine ⟨.stopped r, rfl, rfl, ?_⟩
    rw [handle_stopped h, Console.take, ← h]
  | endOfInput => exact absurd trivial hevent

theorem summary_append {handled : List Event} (h : l.running = true)
    (hhandled : ∀ e ∈ handled, ¬ e.Ends) (hlater : ∀ e ∈ later.head?, e.Ends) :
    ConsistsOf (l.summary builtinTable host (handled ++ later)) l.session l.host
      (Console.history builtinTable host l.session l.host (handled.filterMap Event.step?)) := by
  induction handled generalizing l with
  | nil =>
    rw [List.nil_append]
    cases later with
    | nil => exact ⟨rfl, rfl, rfl, rfl, by simp [Console.history]⟩
    | cons e rest =>
      rw [summary_ends h (hlater e rfl)]
      exact ⟨rfl, rfl, rfl, rfl, by simp [Console.history]⟩
  | cons e handled ih =>
    obtain ⟨he, hrest⟩ := List.forall_mem_cons.mp hhandled
    obtain ⟨step, hstep, hproceed, hhandle⟩ := @handle_step _ host _ _ h he
    obtain ⟨hexchanges, houtput, hsession, hhost, hon⟩ :=
      ih (l := (l.handle builtinTable host e).after) (by rw [hhandle]) hrest
    rw [hhandle] at hexchanges houtput hsession hhost hon
    rw [List.cons_append, summary_cons, hhandle, List.filterMap_cons_some hstep, Console.history]
    exact ⟨congrArg (_ ++ ·) hexchanges, congrArg (_ ++ ·) houtput, hsession, hhost,
      List.forall_mem_cons.mpr ⟨hproceed, hon⟩⟩

end Loop

theorem converse_run_append (host : Host σ) (x : σ) (s : Session) {handled later : List Event}
    (hhandled : ∀ e ∈ handled, ¬ e.Ends) (hlater : ∀ e ∈ later.head?, e.Ends) :
    ConsistsOf ((run builtinTable s (handled ++ later)).converse host x) s x
      (Console.history builtinTable host s x (handled.filterMap Event.step?)) := by
  have hrun := converse_run builtinTable host ⟨s, x, true⟩ rfl (handled ++ later)
  rw [hrun]
  exact Loop.summary_append rfl hhandled hlater

/-- The loop handles the events up to the first line that leaves, by its first word, or the end of
the input. In front of it every line is executed once and in order, whatever the host answers, and
the console goes on. A line that leaves asks nothing, writes nothing and changes nothing, and no
other line leaves. -/
theorem only_leaving_ends (host : Host σ) (x : σ) (s : Session) (events : List Event) :
    (∃ handled later, events = handled ++ later ∧ (∀ e ∈ handled, ¬ e.Ends) ∧
      (∀ e ∈ later.head?, e.Ends) ∧
      ConsistsOf ((run builtinTable s events).converse host x) s x
        (Console.history builtinTable host s x (handled.filterMap Event.step?))) ∧
    ∀ line, let d := Console.execute builtinTable s line
      ((d.converse host x).value.proceed = .exit ↔ Console.Leaves line) ∧
      (Console.Leaves line → d = .done ⟨.exit, s, []⟩) := by
  obtain ⟨handled, later, rfl, hhandled, hlater⟩ := Event.exists_ends events
  refine ⟨⟨handled, later, rfl, hhandled, hlater, converse_run_append host x s hhandled hlater⟩,
    fun line => ⟨Console.proceed_execute_iff host x s line, Console.execute_leaves⟩⟩

/-- Neither a refused request nor a name in another place ends the loop. -/
theorem only_leaving_ends_quit :
    let s : Session := { resolve := fun _ => none, codeSize := .bits16 }
    let host : ScriptedHost := { failures := [("*", "gone")] }
    let events : List Event :=
      [.line "g exit", .line "\u00A0exit", .line " QuiT now\r\r", .line "n"]
    let c := (run builtinTable s events).converse ScriptedHost.answer host
    Console.Leaves " QuiT now" ∧
      Console.execute builtinTable s " QuiT now" = .done ⟨.exit, s, []⟩ ∧
      c.requests = [.resume] ∧ c.value.output =
        [.error "Host error: gone", .error "Unknown command \"\u00A0exit\""] := by
  intro s host events c
  have hwords : Text.words " QuiT now" = ["QuiT", "now"] := by decide +kernel
  have hleaves : Console.Leaves " QuiT now" :=
    ⟨"QuiT", ["now"], Text.runs_iff.mp hwords, .inr (by decide +kernel)⟩
  obtain ⟨-, hlines⟩ := only_leaving_ends ScriptedHost.answer host s events
  obtain ⟨-, hexecute⟩ := hlines " QuiT now"
  exact ⟨hleaves, hexecute hleaves, by decide +kernel, by decide +kernel⟩

end Repl

end DebugConsole
