import Mathlib.Data.List.Forall2
import DebugConsole.Host.Scripted
import DebugConsole.Proofs.Repl.Notifications
import DebugConsole.Proofs.Repl.Reading
import DebugConsole.Proofs.Screen.Messages

/-!
# The two front ends

The screen front end makes of its messages what the event loop makes of the lines and notifications
that they stand for (`front_ends_agree`). The screen echoes every line; that is the only difference.

- **One event** (`Agrees`): a step of the screen and one of the loop, with the same calls and output
  up to the echo. Typing is no event (`Silent`).
- **All events** (`Coincide`): both end together, on the same host and in the same session.
- **Both runs** (`SameRun`): the same for the runs as wholes.
-/

namespace DebugConsole

variable {σ : Type}

namespace App

/-! ## One event -/

/-- The event that a step stands for: the executed line, or the notification. -/
def Handled.event? (t : Handled σ) : Option Event :=
  match t.message with
  | .execute => some (.line t.before.input)
  | .stopped r => some (.stopped r)
  | .insert _ | .backspace | .exit => none

/-- What the screen writes in front of an event's own output. -/
def echo : Event → List Output
  | .line text => [.debug ("> " ++ text)]
  | .stopped _ | .endOfInput => []

/-- A step of the screen and one of the event loop make the same of the same event, up to the
echo. -/
structure Agrees (t : Handled σ) (b : Repl.Handled σ) : Prop where
  event : t.event? = some b.event
  before : t.before.session = b.before.session
  exchanges : t.exchanges = b.exchanges
  written : t.written = echo b.event ++ b.output
  session : t.after.session = b.after.session
  host : t.host = b.after.host
  leaves : t.leaves = !b.after.running

/-- A step that is no event: nothing is said or written. -/
structure Silent (a : App) (x : σ) (t : Handled σ) : Prop where
  event : t.event? = none
  exchanges : t.exchanges = []
  written : t.written = []
  session : t.after.session = a.session
  host : t.host = x
  leaves : t.leaves = false

variable {commands : CommandTable (Action Unit)} {host : Host σ} {a : App} {x : σ}

theorem silent_insert (c : Char) : Silent a x (a.handle commands host x (.insert c)) :=
  ⟨rfl, rfl, rfl, rfl, rfl, rfl⟩

theorem silent_backspace : Silent a x (a.handle commands host x .backspace) :=
  ⟨rfl, rfl, rfl, rfl, rfl, rfl⟩

theorem agrees_execute (h : a.input.toList.getLast? ≠ some '\r') :
    Agrees (a.handle commands host x .execute)
      (Repl.Loop.handle commands host ⟨a.session, x, true⟩ (.line a.input)) := by
  rw [handle_execute, Repl.Loop.handle_line rfl, Repl.Loop.execute, Text.trimEnd_of_getLast?_ne h]
  refine ⟨rfl, rfl, rfl, rfl, rfl, rfl, ?_⟩
  simp only
  cases ((Console.execute commands a.session a.input).converse host x).value.proceed <;> rfl

theorem agrees_stopped (r : Registers) :
    Agrees (a.handle commands host x (.stopped r))
      (Repl.Loop.handle commands host ⟨a.session, x, true⟩ (.stopped r)) := by
  rw [handle_stopped, Repl.Loop.handle_stopped rfl]
  exact ⟨rfl, rfl, rfl, rfl, rfl, rfl, rfl⟩

/-! ## All events -/

/-- The steps of the screen from a front end on, and those of the loop up to its last state: event
by event they agree as long as the loop runs, and they end alike. -/
structure Coincide (a : App) (x : σ) (steps : List (Handled σ)) (handled : List (Repl.Handled σ))
    (last : Repl.Loop σ) : Prop where
  each : List.Forall₂ Agrees (steps.filter (·.event?.isSome)) (handled.filter (·.before.running))
  exchanges : steps.flatMap (·.exchanges) = handled.flatMap (·.exchanges)
  written : steps.flatMap (·.written) =
    (handled.filter (·.before.running)).flatMap fun b => echo b.event ++ b.output
  session : (a.after steps).session = last.session
  host : hostAfter x steps = last.host
  leaves : steps.any (·.leaves) = !last.running

namespace Coincide

theorem nil : Coincide a x [] [] ⟨a.session, x, true⟩ :=
  ⟨.nil, rfl, rfl, rfl, rfl, rfl⟩

/-- A step that is no event adds nothing. -/
theorem silent {t : Handled σ} {steps : List (Handled σ)} {handled : List (Repl.Handled σ)}
    {last : Repl.Loop σ} (ht : Silent a x t) (h : Coincide t.after t.host steps handled last) :
    Coincide a x (t :: steps) handled last := by
  obtain ⟨heach, hexchanges, hwritten, hsession, hhost, hleaves⟩ := h
  refine ⟨?_, ?_, ?_, hsession, hhost, ?_⟩
  · rwa [List.filter_cons_of_neg (by simp [ht.event])]
  · rw [List.flatMap_cons, ht.exchanges, List.nil_append, hexchanges]
  · rw [List.flatMap_cons, ht.written, List.nil_append, hwritten]
  · rw [List.any_cons, ht.leaves, Bool.false_or, hleaves]

/-- An event that both make the same of. If it ends the loop, it leaves the screen as well. -/
theorem event {t : Handled σ} {l : Repl.Loop σ} {event : Event} {rest : List Event}
    {steps : List (Handled σ)} (hl : l.running = true)
    (ht : Agrees t (l.handle commands host event))
    (h : Coincide t.after t.host steps
      (Repl.Loop.history commands host ⟨t.after.session, t.host, true⟩ rest)
      (Repl.Loop.finish commands host ⟨t.after.session, t.host, true⟩ rest)) :
    Coincide a x (t :: if t.leaves then [] else steps) (l.history commands host (event :: rest))
      (l.finish commands host (event :: rest)) := by
  have hbefore : (l.handle commands host event).before.running = true := by
    rw [Repl.Loop.handle_before, hl]
  have hsome : t.event?.isSome = true := by rw [ht.event]; rfl
  have hrunning := ht.leaves
  rw [Repl.Loop.history, Repl.Loop.finish]
  cases hleaves : t.leaves with
  | true =>
    have hended : (l.handle commands host event).after.running = false := by
      simpa [hleaves] using hrunning
    rw [Repl.Loop.history_ended hended, Repl.Loop.finish_ended hended, if_pos rfl]
    refine ⟨?_, ?_, ?_, ht.session, ht.host, by simp [hleaves, hended]⟩
    · simpa [hsome, hbefore, hended] using ht
    · simp [ht.exchanges]
    · simp [hbefore, hended, ht.written]
  | false =>
    have hafter : (l.handle commands host event).after = ⟨t.after.session, t.host, true⟩ := by
      rw [hleaves] at hrunning
      rw [ht.session, ht.host]
      cases hloop : (l.handle commands host event).after with
      | mk session host running => simpa [hloop] using hrunning
    obtain ⟨heach, hexchanges, hwritten, hsession, hhost, hleaves'⟩ := h
    rw [hafter, if_neg Bool.false_ne_true]
    refine ⟨?_, ?_, ?_, hsession, hhost, ?_⟩
    · rw [List.filter_cons_of_pos (by exact hsome), List.filter_cons_of_pos (by exact hbefore)]
      exact .cons ht heach
    · rw [List.flatMap_cons, List.flatMap_cons, ht.exchanges, hexchanges]
    · rw [List.flatMap_cons, List.filter_cons_of_pos (by exact hbefore), List.flatMap_cons,
        ht.written, hwritten]
    · rw [List.any_cons, hleaves, Bool.false_or, hleaves']

end Coincide

/-- Messages and the events they stand for, from a prompt that holds what has been typed. -/
theorem steps_coincide {typed : List Char} {messages : List Message}
    (hinput : a.input = .ofList typed.reverse) (hexit : .exit ∉ messages)
    (hlines : ∀ line, .line line ∈ Message.events typed messages →
      line.toList.getLast? ≠ some '\r') :
    let events := Message.events typed messages
    Coincide a x (a.steps commands host x messages)
      (Repl.Loop.history commands host ⟨a.session, x, true⟩ events)
      (Repl.Loop.finish commands host ⟨a.session, x, true⟩ events) := by
  induction messages generalizing a x typed with
  | nil => exact .nil
  | cons message rest ih =>
    rw [List.mem_cons, not_or] at hexit
    obtain ⟨hmessage, hrest⟩ := hexit
    rw [steps]
    cases message with
    | insert c =>
      refine .silent (silent_insert c) (ih ?_ hrest hlines)
      simp [handle, react, Reaction.logged, hinput]
    | backspace =>
      refine .silent silent_backspace (ih ?_ hrest hlines)
      simp [handle, react, Reaction.logged, hinput]
    | execute =>
      rw [Message.events, ← hinput]
      have hline : a.input.toList.getLast? ≠ some '\r' := by
        refine hlines a.input ?_
        rw [Message.events, ← hinput]
        exact List.mem_cons_self ..
      refine .event rfl (agrees_execute hline) (ih ?_ hrest fun line hmem => ?_)
      · rw [handle_execute]
        rfl
      · exact hlines line (List.mem_cons_of_mem _ hmem)
    | stopped r =>
      rw [Message.events]
      refine .event rfl (agrees_stopped r) (ih hinput hrest fun line hmem => ?_)
      exact hlines line (List.mem_cons_of_mem _ hmem)
    | exit => exact absurd rfl hmessage

/-! ## Both runs -/

/-- Once the loop has ended, it writes nothing. -/
theorem flatMap_output_running (l : Repl.Loop σ) (events : List Event) :
    (l.history commands host events).flatMap (·.output) =
      ((l.history commands host events).filter (·.before.running)).flatMap (·.output) := by
  have hended : ∀ b ∈ l.history commands host events, b.before.running = false → b.output = [] := by
    intro b hb hrunning
    rw [Repl.Loop.eq_handle_of_mem hb, Repl.Loop.handle_ended hrunning]
  generalize l.history commands host events = history at hended
  induction history with
  | nil => rfl
  | cons b rest ih =>
    obtain ⟨hb, hrest⟩ := List.forall_mem_cons.mp hended
    cases hrunning : b.before.running with
    | true =>
      rw [List.filter_cons_of_pos (by exact hrunning), List.flatMap_cons, List.flatMap_cons,
        ih hrest]
    | false =>
      rw [List.filter_cons_of_neg (by simp [hrunning]), List.flatMap_cons, hb hrunning, ih hrest,
        List.nil_append]

/-- A run of the screen and one of the event loop are the same: their calls, and what they leave.
Each event is handled alike, and what is written differs by the echo in front of each line's own
output. -/
structure SameRun (steps : List (Handled σ)) (handled : List (Repl.Handled σ))
    (d : Conversation σ (App × Bool)) (c : Conversation σ Repl.Result) : Prop where
  exchanges : d.exchanges = c.exchanges
  session : d.value.1.session = c.value.session
  host : d.host = c.host
  each : List.Forall₂ Agrees (steps.filter (·.event?.isSome)) handled
  output : c.value.output = handled.flatMap (·.output)
  written : steps.flatMap (·.written) = handled.flatMap fun b => echo b.event ++ b.output

/-- A front end on which nothing has been typed makes of its messages what the event loop makes of
the lines and notifications that they stand for, up to the first line that leaves both. -/
theorem front_ends_agree (commands : CommandTable (Action Unit)) (host : Host σ) (x : σ) {a : App}
    (hinput : a.input = "") {messages : List Message} (hexit : .exit ∉ messages)
    (hlines : ∀ line, .line line ∈ Message.events [] messages →
      line.toList.getLast? ≠ some '\r') :
    let events := Message.events [] messages
    let d := (a.updates commands messages).converse host x
    let c := (Repl.run commands a.session events).converse host x
    let steps := a.steps commands host x messages
    let handled := Repl.Loop.history commands host ⟨a.session, x, true⟩ events
    Tells commands host a messages steps d ∧ Repl.Tells commands host handled events c ∧
      SameRun steps (handled.filter (·.before.running)) d c := by
  intro events d c steps handled
  have hcoincide : Coincide a x steps handled (Repl.Loop.finish commands host _ events) :=
    steps_coincide hinput hexit hlines
  have hd : d = _ := converse_updates messages
  have hc : c = _ := Repl.converse_run commands host ⟨a.session, x, true⟩ rfl events
  refine ⟨steps_tell commands host a x messages, Repl.Loop.history_tells commands host _ rfl events,
    ?_, ?_, ?_, hcoincide.each, ?_, hcoincide.written⟩
  · rw [hd, hc]
    exact hcoincide.exchanges
  · rw [hd, hc]
    exact hcoincide.session
  · rw [hd, hc]
    exact hcoincide.host
  · rw [hc]
    exact flatMap_output_running _ events

/-- A line that is corrected while it is typed, a notification, and a line that leaves, behind which
nothing is executed any more. -/
theorem front_ends_agree_typing :
    let r : Registers := { cs := 0x08, eip := 0x20 }
    let type (text : String) : List Message := text.toList.map .insert
    let messages := [.backspace] ++ type "gx" ++ [.backspace, .execute] ++ type "qui" ++
      [.stopped r] ++ type "t" ++ [.execute] ++ type "r" ++ [.execute]
    let events := Message.events [] messages
    let s : Session := { resolve := fun _ => none, codeSize := .bits16 }
    let log := History.empty 100
    let a : App := { width := 80, height := 25, session := s, history := log
                     logView := .draw 14 21 log, input := "", status := .detached "" }
    let d := (a.updates builtinTable messages).converse ScriptedHost.answer {}
    let c := (Repl.run builtinTable s events).converse ScriptedHost.answer {}
    a.input = "" ∧ .exit ∉ messages ∧
      events = [.line "g", .stopped r, .line "quit", .line "r"] ∧
      (∀ line, .line line ∈ events → line.toList.getLast? ≠ some '\r') ∧
      d.exchanges = c.exchanges ∧ d.value.1.session = c.value.session ∧
      c.requests = [.resume] ∧ d.value.1.history.entries =
        [⟨.debug, "> g"⟩, ⟨.info, "-> Stopped at 0008:00000020"⟩, ⟨.debug, "> quit"⟩] := by
  intro r type messages events s log a d c
  have hexit : .exit ∉ messages := by decide +kernel
  have hevents : events = [.line "g", .stopped r, .line "quit", .line "r"] := by decide +kernel
  have hlines : ∀ line, .line line ∈ events → line.toList.getLast? ≠ some '\r' := by
    simp [hevents]
  obtain ⟨-, -, hsame⟩ :=
    front_ends_agree builtinTable ScriptedHost.answer {} (a := a) rfl hexit hlines
  refine ⟨rfl, hexit, hevents, hlines, hsame.exchanges, ?_, by decide +kernel, by decide +kernel⟩
  rw [hsame.session]

end App

end DebugConsole
