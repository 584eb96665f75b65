import DebugConsole.Repl

/-!
# The event loop, event by event

`Repl.run` is one dialogue over all events. Here the same run is told one event at a time, so that
calls and output can be assigned to the event that they belong to.

- **One event** (`Loop.handle`): what it comes to, from the loop as it is. A loop that has ended
  handles nothing any more.
- **All events** (`Loop.history`, `Loop.finish`): the events in order, each on the loop that the one
  before it leaves.
- **The end** (`running_iff`): the loop runs as long as no event has ended it.
- **The run** (`converse_run`): `Repl.run` says and writes what the history says.
-/

namespace DebugConsole.Repl

variable {σ : Type}

/-- The loop between two events. -/
structure Loop (σ : Type) where
  session : Session
  host : σ
  running : Bool := true

/-- An event, with the loop before and after it and what handling it came to. -/
structure Handled (σ : Type) where
  event : Event
  before : Loop σ
  exchanges : List Exchange
  output : List Output
  after : Loop σ

/-- Whether an event ends the loop: the end of the input, or a line that leaves the console. -/
def Handled.Ends (commands : CommandTable (Action Unit)) (host : Host σ) (b : Handled σ) : Prop :=
  match b.event with
  | .line text =>
    ((Console.execute commands b.before.session (Text.trimEnd (· = '\r') text)).converse host
      b.before.host).value.proceed = .exit
  | .stopped _ => False
  | .endOfInput => True

/-- A handled event, then what the rest of the run comes to. -/
def Handled.followedBy (handled : Handled σ) (c : Conversation σ Result) :
    Conversation σ Result :=
  ⟨c.value.after handled.output, handled.exchanges ++ c.exchanges, c.host⟩

namespace Loop

/-- Executes a line. -/
def execute (commands : CommandTable (Action Unit)) (host : Host σ) (l : Loop σ) (text : String) :
    Handled σ :=
  let c := (Console.execute commands l.session (Text.trimEnd (· = '\r') text)).converse host l.host
  { event := .line text
    before := l
    exchanges := c.exchanges
    output := c.value.output
    after := ⟨c.value.session, c.host, c.value.proceed = .continue⟩ }

/-- Handles an event; a loop that has ended does nothing. -/
def handle (commands : CommandTable (Action Unit)) (host : Host σ) (l : Loop σ) (event : Event) :
    Handled σ :=
  if l.running then
    match event with
    | .line text => l.execute commands host text
    | .stopped r => ⟨event, l, [], [Console.stopped r], l⟩
    | .endOfInput => ⟨event, l, [], [], { l with running := false }⟩
  else ⟨event, l, [], [], l⟩

/-- Handles events one after the other. -/
def history (commands : CommandTable (Action Unit)) (host : Host σ) (l : Loop σ) :
    List Event → List (Handled σ)
  | [] => []
  | event :: rest =>
    let handled := l.handle commands host event
    handled :: history commands host handled.after rest

/-- The loop behind some events. -/
def finish (commands : CommandTable (Action Unit)) (host : Host σ) (l : Loop σ) :
    List Event → Loop σ
  | [] => l
  | event :: rest => finish commands host (l.handle commands host event).after rest

variable {commands : CommandTable (Action Unit)} {host : Host σ} {l : Loop σ}

theorem handle_line (h : l.running = true) (text : String) :
    l.handle commands host (.line text) = l.execute commands host text :=
  if_pos h

theorem handle_stopped (h : l.running = true) (r : Registers) :
    l.handle commands host (.stopped r) = ⟨.stopped r, l, [], [Console.stopped r], l⟩ :=
  if_pos h

theorem handle_endOfInput (h : l.running = true) :
    l.handle commands host .endOfInput = ⟨.endOfInput, l, [], [], { l with running := false }⟩ :=
  if_pos h

theorem handle_ended (h : l.running = false) (event : Event) :
    l.handle commands host event = ⟨event, l, [], [], l⟩ :=
  if_neg (by simp [h])

theorem handle_event (event : Event) : (l.handle commands host event).event = event := by
  unfold handle execute
  split
  · cases event <;> rfl
  · rfl

theorem handle_before (event : Event) : (l.handle commands host event).before = l := by
  unfold handle execute
  split
  · cases event <;> rfl
  · rfl

theorem map_event_history (events : List Event) :
    (l.history commands host events).map (·.event) = events := by
  induction events generalizing l with
  | nil => rfl
  | cons event rest ih => rw [history, List.map_cons, handle_event, ih]

/-- What a history holds was handled on the loop before it. -/
theorem eq_handle_of_mem {b : Handled σ} {events : List Event}
    (h : b ∈ l.history commands host events) : b = b.before.handle commands host b.event := by
  induction events generalizing l with
  | nil => cases h
  | cons event rest ih =>
    rw [history, List.mem_cons] at h
    rcases h with rfl | h
    · rw [handle_event, handle_before]
    · exact ih h

/-- Once the loop has ended, nothing is said or written any more. -/
theorem history_ended (h : l.running = false) (events : List Event) :
    l.history commands host events = events.map fun event => ⟨event, l, [], [], l⟩ := by
  induction events with
  | nil => rfl
  | cons event rest ih => rw [history, handle_ended h, ih, List.map_cons]

theorem finish_ended (h : l.running = false) (events : List Event) :
    l.finish commands host events = l := by
  induction events with
  | nil => rfl
  | cons event rest ih => rw [finish, handle_ended h, ih]

/-- A running loop goes on unless the event ends it. -/
theorem handle_running_iff (h : l.running = true) (event : Event) :
    (l.handle commands host event).after.running = true ↔
      ¬ (l.handle commands host event).Ends commands host := by
  unfold Handled.Ends
  rw [handle_event, handle_before]
  cases event with
  | endOfInput => simp [handle_endOfInput h]
  | stopped r => simp [handle_stopped h, h]
  | line text =>
    rw [handle_line h, execute]
    simp only [decide_eq_true_eq]
    generalize (Console.execute commands l.session (Text.trimEnd (· = '\r') text)).converse host
      l.host = c
    cases c.value.proceed <;> simp

/-- The loop runs in front of an event as long as no earlier one has ended it. -/
theorem running_iff (h : l.running = true) {events : List Event} {earlier later : List (Handled σ)}
    {b : Handled σ} (hhistory : l.history commands host events = earlier ++ b :: later) :
    b.before.running = true ↔ ∀ a ∈ earlier, ¬ a.Ends commands host := by
  induction events generalizing l earlier with
  | nil => simp [history] at hhistory
  | cons event rest ih =>
    rw [history] at hhistory
    cases earlier with
    | nil =>
      obtain ⟨rfl, -⟩ := List.cons.inj hhistory
      simp [handle_before, h]
    | cons a earlier =>
      rw [List.cons_append] at hhistory
      obtain ⟨rfl, hrest⟩ := List.cons.inj hhistory
      rw [List.forall_mem_cons, ← handle_running_iff h]
      cases hrunning : (l.handle commands host event).after.running with
      | true => simpa using ih hrunning hrest
      | false =>
        -- Every later event is handled on the loop as it ended.
        rw [history_ended hrunning] at hrest
        have hb : b ∈ earlier ++ b :: later := by simp
        rw [← hrest, List.mem_map] at hb
        obtain ⟨_, -, rfl⟩ := hb
        simp [hrunning]

/-- What the history of a run comes to as a whole. -/
def summary (commands : CommandTable (Action Unit)) (host : Host σ) (l : Loop σ)
    (events : List Event) : Conversation σ Result :=
  let history := l.history commands host events
  let last := l.finish commands host events
  ⟨⟨last.session, history.flatMap (·.output)⟩, history.flatMap (·.exchanges), last.host⟩

theorem summary_cons (event : Event) (rest : List Event) :
    l.summary commands host (event :: rest) = (l.handle commands host event).followedBy
      ((l.handle commands host event).after.summary commands host rest) := by
  simp only [summary, history, finish, List.flatMap_cons, Handled.followedBy, Result.after]

theorem summary_ended (h : l.running = false) (events : List Event) :
    l.summary commands host events = ⟨⟨l.session, []⟩, [], l.host⟩ := by
  simp [summary, history_ended h, finish_ended h, List.flatMap_map]

end Loop

theorem Handled.followedBy_nil (b : Handled σ) (s : Session) (x : σ) :
    b.followedBy ⟨⟨s, []⟩, [], x⟩ = ⟨⟨s, b.output⟩, b.exchanges, x⟩ := by
  simp [followedBy, Result.after]

/-- A run on a host is its history. -/
theorem converse_run (commands : CommandTable (Action Unit)) (host : Host σ) (l : Loop σ)
    (h : l.running = true) (events : List Event) :
    (run commands l.session events).converse host l.host = l.summary commands host events := by
  induction events generalizing l with
  | nil => rfl
  | cons event rest ih =>
    rw [Loop.summary_cons]
    cases event with
    | endOfInput =>
      rw [Loop.handle_endOfInput h, Loop.summary_ended (l := { l with running := false }) rfl]
      rfl
    | stopped r =>
      rw [Loop.handle_stopped h, ← ih l h]
      refine (Dialogue.converse_bind host _ _ _).trans ?_
      simp [Handled.followedBy]
    | line text =>
      -- The flow of the line decides whether the rest is handled at all.
      rw [Loop.handle_line h, Loop.execute]
      refine (Dialogue.converse_bind host _ _ _).trans ?_
      generalize (Console.execute commands l.session (Text.trimEnd (· = '\r') text)).converse host
        l.host = c
      cases hproceed : c.value.proceed with
      | exit =>
        rw [Loop.summary_ended (by simp), Handled.followedBy_nil]
        simp only [hproceed, Dialogue.pure_eq, Dialogue.converse_done, List.append_nil]
      | «continue» =>
        rw [← ih _ (by simp)]
        simp only [hproceed]
        rw [Dialogue.converse_bind]
        simp [Handled.followedBy, Dialogue.converse_done]

end DebugConsole.Repl
