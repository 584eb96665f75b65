import DebugConsole.Host.Scripted
import DebugConsole.Proofs.Repl.History

/-!
# Stop notifications

Notifications arrive between the typed lines at any time. A notification leaves the loop as it was
(`handle_stopped_after`), so a history without its notifications is the history of the typed events
(`filter_history`), and two interleavings of the same typed events differ in the notification lines
only (`notifications_never_interfere`).
-/

namespace DebugConsole

variable {σ : Type}

/-- Whether an event comes from the input. -/
def Event.isTyped : Event → Bool
  | .line _ | .endOfInput => true
  | .stopped _ => false

namespace Repl

namespace Loop

variable {commands : CommandTable (Action Unit)} {host : Host σ} {l : Loop σ}

theorem handle_stopped_after (r : Registers) :
    (l.handle commands host (.stopped r)).after = l := by
  cases h : l.running with
  | true => rw [handle_stopped h]
  | false => rw [handle_ended h]

theorem handle_stopped_exchanges (r : Registers) :
    (l.handle commands host (.stopped r)).exchanges = [] := by
  cases h : l.running with
  | true => rw [handle_stopped h]
  | false => rw [handle_ended h]

/-- Without the notifications, a history is the one of the typed events. -/
theorem filter_history (events : List Event) :
    (l.history commands host events).filter (·.event.isTyped) =
      l.history commands host (events.filter Event.isTyped) := by
  induction events generalizing l with
  | nil => rfl
  | cons event rest ih =>
    cases hevent : event.isTyped with
    | true =>
      rw [history, List.filter_cons_of_pos (by rw [handle_event, hevent]),
        List.filter_cons_of_pos hevent, history, ih]
    | false =>
      cases event with
      | line | endOfInput => cases hevent
      | stopped r =>
        rw [history, List.filter_cons_of_neg (by simp [handle_event, hevent]),
          List.filter_cons_of_neg (by simp [hevent]), handle_stopped_after, ih]

/-- All that is said to the host is said for typed events, and so is what it leaves. -/
theorem summary_filter (commands : CommandTable (Action Unit)) (host : Host σ) (l : Loop σ)
    (events : List Event) :
    let c := l.summary commands host events
    let typed := l.summary commands host (events.filter Event.isTyped)
    c.exchanges = typed.exchanges ∧ c.value.session = typed.value.session ∧ c.host = typed.host := by
  induction events generalizing l with
  | nil => exact ⟨rfl, rfl, rfl⟩
  | cons event rest ih =>
    cases event with
    | line | endOfInput =>
      rw [List.filter_cons_of_pos rfl, summary_cons, summary_cons]
      obtain ⟨hexchanges, hsession, hhost⟩ := ih (l.handle commands host _).after
      exact ⟨congrArg (_ ++ ·) hexchanges, hsession, hhost⟩
    | stopped r =>
      rw [List.filter_cons_of_neg (by simp [Event.isTyped]), summary_cons, handle_stopped_after]
      obtain ⟨hexchanges, hsession, hhost⟩ := ih l
      refine ⟨?_, hsession, hhost⟩
      rw [Handled.followedBy, handle_stopped_exchanges]
      exact hexchanges

/-- A notification says nothing to the host, leaves the loop alone, and writes one line if the loop
has not ended. -/
structure Notifies (b : Handled σ) (r : Registers) : Prop where
  exchanges : b.exchanges = []
  after : b.after = b.before
  output : b.output = if b.before.running then
    [.info ("-> Stopped at " ++ Text.hex 4 r.cs.toNat ++ ":" ++ Text.hex 8 r.eip.toNat)] else []

theorem notifies_of_mem {b : Handled σ} {r : Registers} {events : List Event}
    (h : b ∈ l.history commands host events) (hevent : b.event = .stopped r) : Notifies b r := by
  have hb := eq_handle_of_mem h
  rw [hevent] at hb
  cases hrunning : b.before.running with
  | true =>
    rw [handle_stopped hrunning] at hb
    refine ⟨by rw [hb], by rw [hb], ?_⟩
    rw [hb]
    simp [hrunning, Console.stopped, Registers.ip, Address.text, String.append_assoc]
  | false =>
    rw [handle_ended hrunning] at hb
    refine ⟨by rw [hb], by rw [hb], ?_⟩
    rw [hb]
    simp [hrunning]

end Loop

/-- A run told event by event: what it says and writes belongs to the events, in their order, until
one of them ends it, and the notifications among them are only written. -/
structure Tells (commands : CommandTable (Action Unit)) (host : Host σ)
    (history : List (Handled σ)) (events : List Event) (c : Conversation σ Result) : Prop where
  events : history.map (·.event) = events
  running (earlier later : List (Handled σ)) (b : Handled σ) (h : history = earlier ++ b :: later) :
    b.before.running = true ↔ ∀ a ∈ earlier, ¬ a.Ends commands host
  exchanges : c.exchanges = history.flatMap (·.exchanges)
  output : c.value.output = history.flatMap (·.output)
  notifications : ∀ b ∈ history, ∀ r, b.event = .stopped r → Loop.Notifies b r

theorem Loop.history_tells (commands : CommandTable (Action Unit)) (host : Host σ) (l : Loop σ)
    (h : l.running = true) (events : List Event) :
    Tells commands host (l.history commands host events) events
      ((run commands l.session events).converse host l.host) := by
  rw [converse_run commands host l h]
  exact ⟨map_event_history events, fun _ _ _ hhistory => running_iff h hhistory, rfl, rfl,
    fun b hb r hr => notifies_of_mem hb hr⟩

/-- Two runs of the same typed events, with any notifications between them, make the same calls
and end with the same session. They handle the typed events alike, on the same loop and with the
same output, and each notification adds its own line and nothing else. -/
theorem notifications_never_interfere (commands : CommandTable (Action Unit)) (host : Host σ)
    (s : Session) (x : σ) (events events' : List Event)
    (h : events.filter Event.isTyped = events'.filter Event.isTyped) :
    let c := (run commands s events).converse host x
    let c' := (run commands s events').converse host x
    let history := Loop.history commands host ⟨s, x, true⟩ events
    let history' := Loop.history commands host ⟨s, x, true⟩ events'
    c.exchanges = c'.exchanges ∧ c.value.session = c'.value.session ∧ c.host = c'.host ∧
    Tells commands host history events c ∧ Tells commands host history' events' c' ∧
    history.filter (·.event.isTyped) = history'.filter (·.event.isTyped) := by
  intro c c' history history'
  let l : Loop σ := ⟨s, x, true⟩
  have hc : c = l.summary commands host events := converse_run commands host l rfl events
  have hc' : c' = l.summary commands host events' := converse_run commands host l rfl events'
  obtain ⟨hexchanges, hsession, hhost⟩ := Loop.summary_filter commands host l events
  obtain ⟨hexchanges', hsession', hhost'⟩ := Loop.summary_filter commands host l events'
  rw [← h] at hexchanges' hsession' hhost'
  refine ⟨?_, ?_, ?_, Loop.history_tells commands host l rfl events,
    Loop.history_tells commands host l rfl events', ?_⟩
  · rw [hc, hc', hexchanges, hexchanges']
  · rw [hc, hc', hsession, hsession']
  · rw [hc, hc', hhost, hhost']
  · rw [Loop.filter_history, Loop.filter_history, h]

/-- A notification behind a line, against one in front of it and one behind the end. -/
theorem notifications_around_exit :
    let r : Registers := { cs := 0x08, eip := 0x20 }
    let events : List Event := [.line "nope\r", .stopped r, .line "exit", .line "r"]
    let events' : List Event := [.stopped r, .line "nope\r", .line "exit", .stopped r, .line "r"]
    let s : Session := { resolve := fun _ => none, codeSize := .bits16 }
    let c := (run builtinTable s events).converse ScriptedHost.answer {}
    let c' := (run builtinTable s events').converse ScriptedHost.answer {}
    events.filter Event.isTyped = events'.filter Event.isTyped ∧ c.exchanges = c'.exchanges ∧
      c.value.session = c'.value.session := by
  intro r events events' s c c'
  have h : events.filter Event.isTyped = events'.filter Event.isTyped := rfl
  obtain ⟨hexchanges, hsession, -⟩ :=
    notifications_never_interfere builtinTable ScriptedHost.answer s {} events events' h
  exact ⟨h, hexchanges, hsession⟩

end Repl

end DebugConsole
