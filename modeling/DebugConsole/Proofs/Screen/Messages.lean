import DebugConsole.Repl
import DebugConsole.Screen.App

/-!
# The screen front end, message by message

`App.update` reacts to one message. Here the messages are told one after the other, with what each
of them says to the host and writes to the log.

- **One message** (`App.react`): what it changes apart from the log, and what it writes there;
  `App.update` is this reaction, with the log written at once (`update_eq_react`).
- **All messages** (`App.updates`, `App.steps`): each on the front end that the one before it
  leaves, until one of them leaves the front end. The run says and writes what its steps do
  (`converse_updates`, `history_updates`).
- **The prompt** (`Message.events`): the lines that are executed, from what has been typed.
-/

namespace DebugConsole

variable {σ : Type}

namespace App

/-! ## One message -/

/-- What a message comes to: the front end with its log as it was, what is to be written to the log,
and whether the front end is to be left. -/
structure Reaction where
  app : App
  written : List Output
  leaves : Bool

/-- The front end once the log is written; without output the log is not touched. -/
def Reaction.logged (r : Reaction) : App :=
  if r.written.isEmpty then r.app else r.app.log r.written

/-- What a message comes to. -/
def react (commands : CommandTable (Action Unit)) (a : App) : Message → Dialogue Reaction
  | .insert c => .done ⟨{ a with input := a.input.push c }, [], false⟩
  | .backspace => .done ⟨{ a with input := .ofList a.input.toList.dropLast }, [], false⟩
  | .execute => do
    let outcome ← Console.execute commands a.session a.input
    return ⟨{ a with input := "", session := outcome.session },
      .debug ("> " ++ a.input) :: outcome.output, outcome.proceed = .exit⟩
  | .stopped r => .done ⟨{ a with status := .stopped r.ip }, [Console.stopped r], false⟩
  | .exit => .done ⟨a, [], true⟩

/-- An update is a reaction, then the log. -/
theorem update_eq_react (commands : CommandTable (Action Unit)) (a : App) (message : Message) :
    a.update commands message =
      a.react commands message >>= fun r => .done (r.logged, r.leaves) := by
  cases message with
  | insert | backspace | stopped | exit => rfl
  | execute =>
    rw [react, Dialogue.bind_assoc]
    rfl

/-- The log gets what is written, in order. -/
theorem Reaction.history_logged (r : Reaction) :
    r.logged.history = r.app.history.writeAll r.written := by
  unfold logged
  by_cases h : r.written.isEmpty = true
  · rw [if_pos h, List.isEmpty_iff.mp h]
    rfl
  · rw [if_neg h]
    rfl

/-- A handled message: the front end before and after it, and what handling it came to. -/
structure Handled (σ : Type) where
  message : Message
  before : App
  exchanges : List Exchange
  written : List Output
  after : App
  leaves : Bool
  host : σ

/-- Handles a message. -/
def handle (commands : CommandTable (Action Unit)) (host : Host σ) (a : App) (x : σ)
    (message : Message) : Handled σ :=
  let c := (a.react commands message).converse host x
  ⟨message, a, c.exchanges, c.value.written, c.value.logged, c.value.leaves, c.host⟩

section Handling

variable {commands : CommandTable (Action Unit)} {host : Host σ} {a : App} {x : σ}

/-- Handling a message is an update. -/
theorem converse_update (message : Message) :
    let t := a.handle commands host x message
    (a.update commands message).converse host x = ⟨(t.after, t.leaves), t.exchanges, t.host⟩ := by
  rw [update_eq_react, Dialogue.converse_bind]
  simp [handle]

theorem handle_execute :
    let c := (Console.execute commands a.session a.input).converse host x
    let written := Output.debug ("> " ++ a.input) :: c.value.output
    a.handle commands host x .execute =
      ⟨.execute, a, c.exchanges, written,
        { a with input := "", session := c.value.session }.log written, c.value.proceed = .exit,
        c.host⟩ := by
  unfold handle react
  rw [Dialogue.converse_bind]
  simp [Reaction.logged]

theorem handle_stopped (r : Registers) :
    a.handle commands host x (.stopped r) =
      ⟨.stopped r, a, [], [Console.stopped r],
        { a with status := .stopped r.ip }.log [Console.stopped r], false, x⟩ :=
  rfl

end Handling

/-! ## All messages -/

/-- Updates the front end until a message leaves it, and tells whether one of them does. -/
def updates (commands : CommandTable (Action Unit)) (a : App) :
    List Message → Dialogue (App × Bool)
  | [] => return (a, false)
  | message :: rest => do
    let (a, leaves) ← a.update commands message
    if leaves then return (a, true) else updates commands a rest

/-- Handles messages one after the other until one of them leaves the front end. -/
def steps (commands : CommandTable (Action Unit)) (host : Host σ) (a : App) (x : σ) :
    List Message → List (Handled σ)
  | [] => []
  | message :: rest =>
    let t := a.handle commands host x message
    t :: if t.leaves then [] else steps commands host t.after t.host rest

/-- The front end behind some steps. -/
def after (a : App) (steps : List (Handled σ)) : App :=
  steps.foldl (fun _ t => t.after) a

/-- The host behind some steps. -/
def hostAfter (x : σ) (steps : List (Handled σ)) : σ :=
  steps.foldl (fun _ t => t.host) x

section Runs

variable {commands : CommandTable (Action Unit)} {host : Host σ} {a : App} {x : σ}

/-- What is true of every message on every front end is true of every step. -/
theorem steps_forall {P : Handled σ → Prop} {messages : List Message}
    (h : ∀ a x, ∀ message ∈ messages, P (handle commands host a x message)) :
    ∀ t ∈ a.steps commands host x messages, P t := by
  induction messages generalizing a x with
  | nil => simp [steps]
  | cons message rest ih =>
    rw [steps, List.forall_mem_cons]
    refine ⟨h a x message (List.mem_cons_self ..), ?_⟩
    split
    · exact List.forall_mem_nil _
    · exact ih fun a x m hm => h a x m (List.mem_cons_of_mem _ hm)

/-- The messages are handled in order, all of them unless one leaves the front end. -/
theorem map_message_steps (messages : List Message) :
    (a.steps commands host x messages).map (·.message) <+: messages ∧
      ((∀ t ∈ a.steps commands host x messages, t.leaves = false) →
        (a.steps commands host x messages).map (·.message) = messages) := by
  induction messages generalizing a x with
  | nil => exact ⟨List.prefix_refl _, fun _ => rfl⟩
  | cons message rest ih =>
    have hmessage : (a.handle commands host x message).message = message := rfl
    rw [steps, List.map_cons, hmessage, List.prefix_cons_inj, List.forall_mem_cons]
    cases hleaves : (a.handle commands host x message).leaves with
    | true => simp
    | false =>
      simp only [Bool.false_eq_true, if_false, List.cons.injEq, true_and]
      exact ⟨ih.1, ih.2⟩

/-- The updates say to the host what the steps do, and leave what the last of them leaves. -/
theorem converse_updates (messages : List Message) :
    let steps := a.steps commands host x messages
    (a.updates commands messages).converse host x =
      ⟨(a.after steps, steps.any (·.leaves)), steps.flatMap (·.exchanges), hostAfter x steps⟩ := by
  induction messages generalizing a x with
  | nil => rfl
  | cons message rest ih =>
    simp only [updates, steps]
    rw [Dialogue.converse_bind, converse_update]
    cases hleaves : (a.handle commands host x message).leaves with
    | true => simp [hleaves, after, hostAfter]
    | false => simp [hleaves, after, hostAfter, ih]

/-- A message leaves the log alone until the log is written. -/
theorem after_handle (message : Message) :
    let t := a.handle commands host x message
    ∃ app : App, app.history = a.history ∧ app.logView = a.logView ∧
      t.after = (Reaction.mk app t.written t.leaves).logged := by
  refine ⟨((a.react commands message).converse host x).value.app, ?_, ?_, rfl⟩
  all_goals
    cases message with
    | insert | backspace | stopped | exit => rfl
    | execute =>
      rw [react, Dialogue.converse_bind]
      rfl

theorem history_handle (message : Message) :
    (a.handle commands host x message).after.history =
      a.history.writeAll (a.handle commands host x message).written := by
  obtain ⟨app, hhistory, -, hafter⟩ : ∃ app : App, app.history = a.history ∧ _ ∧ _ :=
    after_handle message
  rw [hafter, Reaction.history_logged, hhistory]

/-- The log gets what the steps write, in order. -/
theorem history_updates (messages : List Message) :
    let steps := a.steps commands host x messages
    (a.after steps).history = a.history.writeAll (steps.flatMap (·.written)) := by
  induction messages generalizing a x with
  | nil => rfl
  | cons message rest ih =>
    simp only [steps, after, List.foldl_cons, List.flatMap_cons, History.writeAll,
      List.foldl_append]
    have hstep : (a.handle commands host x message).after.history =
        (a.handle commands host x message).written.foldl History.write a.history :=
      history_handle message
    rw [← hstep]
    cases hleaves : (a.handle commands host x message).leaves with
    | true => simp
    | false => simpa [after, History.writeAll] using ih

end Runs

/-- A run told message by message: every step is an update that writes to the log at its end, what
is said and written belongs to the steps, and what is typed only changes the prompt. -/
structure Tells (commands : CommandTable (Action Unit)) (host : Host σ) (a : App)
    (messages : List Message) (steps : List (Handled σ)) (d : Conversation σ (App × Bool)) :
    Prop where
  messages : steps.map (·.message) <+: messages ∧
    ((∀ t ∈ steps, t.leaves = false) → steps.map (·.message) = messages)
  update : ∀ t ∈ steps, ∃ x, (t.before.update commands t.message).converse host x =
    ⟨(t.after, t.leaves), t.exchanges, t.host⟩
  logged : ∀ t ∈ steps, ∃ app : App, app.history = t.before.history ∧
    app.logView = t.before.logView ∧ t.after = (Reaction.mk app t.written t.leaves).logged
  exchanges : d.exchanges = steps.flatMap (·.exchanges)
  leaves : d.value.2 = steps.any (·.leaves)
  history : d.value.1.history = a.history.writeAll (steps.flatMap (·.written))
  typing : ∀ t ∈ steps, (t.message = .backspace ∨ ∃ c, t.message = .insert c) →
    t.exchanges = [] ∧ t.written = [] ∧ t.leaves = false ∧
      t.after = { t.before with input := t.after.input }
  prompt : ∀ t ∈ steps, t.message = .execute → t.after.input = ""
  status : ∀ t ∈ steps, ∀ r, t.message = .stopped r → t.after.status.text =
    " 🟢 Stopped at " ++ Text.hex 4 r.cs.toNat ++ ":" ++ Text.hex 8 r.eip.toNat

theorem steps_tell (commands : CommandTable (Action Unit)) (host : Host σ) (a : App) (x : σ)
    (messages : List Message) :
    Tells commands host a messages (a.steps commands host x messages)
      ((a.updates commands messages).converse host x) := by
  rw [converse_updates]
  refine ⟨map_message_steps messages, steps_forall fun a x m _ => ⟨x, converse_update m⟩,
    steps_forall fun a x m _ => after_handle m, rfl, rfl, history_updates messages, ?_, ?_, ?_⟩
  · refine steps_forall fun a x m _ => ?_
    rintro (hm | ⟨c, hm⟩)
    · obtain rfl : m = .backspace := hm
      exact ⟨rfl, rfl, rfl, rfl⟩
    · obtain rfl : m = .insert c := hm
      exact ⟨rfl, rfl, rfl, rfl⟩
  · refine steps_forall fun a x m _ hm => ?_
    obtain rfl : m = .execute := hm
    rw [handle_execute]
    rfl
  · refine steps_forall fun a x m _ r hm => ?_
    obtain rfl : m = .stopped r := hm
    show " 🟢 Stopped at " ++ r.ip.text = _
    simp only [Registers.ip, Address.text, String.append_assoc]

end App

/-! ## The prompt -/

/-- The events that messages stand for. What has been typed since the last executed line is a stack,
with the newest character on top. -/
def Message.events (typed : List Char) : List Message → List Event
  | [] => []
  | .insert c :: rest => events (c :: typed) rest
  | .backspace :: rest => events typed.tail rest
  | .execute :: rest => .line (.ofList typed.reverse) :: events [] rest
  | .stopped r :: rest => .stopped r :: events typed rest
  | .exit :: rest => events typed rest

end DebugConsole
