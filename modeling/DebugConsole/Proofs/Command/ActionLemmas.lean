import DebugConsole.Console

/-!
# Actions as dialogues

What a command does is an `Action`, which carries its context through a dialogue. A command starts
with nothing written and nothing left (`Context.start`), and what counts afterwards is its outcome
(`Action.dialogue`). The rules here run an action from such a start, one operation at a time:

- **Operands** (`dialogue_nextArgument_bind`, `dialogue_parsed_bind`, ...): an operand is read
  without asking the host, so reading is a case distinction (`whenRead`) in front of the rest.
- **Requests** (`dialogue_query_bind`): a refused request ends the command with its report.
- **Endings** (`dialogue_print`, `dialogue_showRegisters`): what a command shows at its end.
-/

namespace DebugConsole

variable {α β : Type}

theorem Dialogue.ask_congr {r : Request} {f g : Except HostFailure r.Reply → Dialogue α}
    (h : ∀ reply, f reply = g reply) : Dialogue.ask r f = .ask r g :=
  congrArg (Dialogue.ask r) (funext h)

/-- What holds of every answer of a host holds of everything that is said. -/
theorem Dialogue.forall_mem_exchanges {σ : Type} {host : Host σ} {P : Exchange → Prop}
    (h : ∀ r y, P ⟨r, (host r y).1⟩) (d : Dialogue α) (x : σ) :
    ∀ e ∈ (d.converse host x).exchanges, P e := by
  induction d generalizing x with
  | done => simp
  | ask r next ih => exact List.forall_mem_cons.mpr ⟨h r x, ih _ _⟩

/-- What a failed command leads to: its report, and nothing else. -/
def Outcome.failed (s : Session) (e : CommandError) : Outcome :=
  ⟨.continue, s, [.error e.message]⟩

/-- What a command finds when it starts. -/
def Context.start (help : List String) (s : Session) (words : List String) : Context :=
  { arguments := ⟨words⟩, session := s, help }

/-- What follows once an operand is read; a refused one fails the command. -/
def whenRead (s : Session) (operand : Except OperandError α) (next : α → Dialogue Outcome) :
    Dialogue Outcome :=
  match operand with
  | .ok a => next a
  | .error e => .done (.failed s (.operand e))

theorem whenRead_bind (s : Session) (x : Except OperandError α) (f : α → Except OperandError β)
    (next : β → Dialogue Outcome) :
    whenRead s (x >>= f) next = whenRead s x fun a => whenRead s (f a) next := by
  cases x <;> rfl

theorem whenRead_congr {s : Session} {x : Except OperandError α} {f g : α → Dialogue Outcome}
    (h : ∀ a, x = .ok a → f a = g a) : whenRead s x f = whenRead s x g := by
  cases hx : x with
  | error e => rfl
  | ok a => exact h a hx

/-- A word through a parser, or a default if it is omitted. -/
def Operand.orDefault (default : α) (parse : String → Except OperandError α) (word : String) :
    Except OperandError α :=
  if word.isEmpty then .ok default else parse word

namespace Action

/-- The dialogue that an action holds, and what it leads to. -/
def dialogue (x : Action Unit) (c : Context) : Dialogue Outcome := do
  return Console.outcome (← x.run c)

theorem dialogue_of_run {x : Action Unit} {c c' : Context} {result : Except CommandError Unit}
    (h : x.run c = .done (result, c')) : x.dialogue c = .done (Console.outcome (result, c')) := by
  unfold dialogue
  rw [h]
  rfl

/-- An action that asks nothing, then another one. -/
theorem dialogue_bind_of_run {x : Action α} {f : α → Action Unit} {c c' : Context} {a : α}
    (h : x.run c = .done (.ok a, c')) : (x >>= f).dialogue c = (f a).dialogue c' := by
  have hb : (x >>= f).run c = (f a).run c' := by
    show (x.run c >>= _) = _
    rw [h]
    rfl
  unfold dialogue
  rw [hb]

section Start

variable (help : List String) (s : Session) (words : List String)

/-! ## Operands -/

theorem dialogue_nextArgument_bind (f : String → Action Unit) :
    (nextArgument >>= f).dialogue (.start help s words) =
      (f (words.headD "")).dialogue (.start help s (words.drop 1)) :=
  dialogue_bind_of_run rfl

theorem dialogue_restArguments_bind (f : List String → Action Unit) :
    (restArguments >>= f).dialogue (.start help s words) =
      (f words).dialogue (.start help s []) :=
  dialogue_bind_of_run rfl

theorem dialogue_session_bind (f : Session → Action Unit) :
    (session >>= f).dialogue (.start help s words) = (f s).dialogue (.start help s words) :=
  dialogue_bind_of_run rfl

theorem dialogue_parsed_bind (x : Except OperandError α) (f : α → Action Unit) :
    (parsed x >>= f).dialogue (.start help s words) =
      whenRead s x fun a => (f a).dialogue (.start help s words) := by
  cases x with
  | ok a => exact dialogue_bind_of_run rfl
  | error e => rfl

theorem dialogue_optional_bind (default : α) (parse : String → Except OperandError α)
    (f : α → Action Unit) :
    (optional default parse >>= f).dialogue (.start help s words) =
      whenRead s (Operand.orDefault default parse (words.headD "")) fun a =>
        (f a).dialogue (.start help s (words.drop 1)) := by
  rw [optional, bind_assoc, dialogue_nextArgument_bind, Operand.orDefault]
  split
  · exact dialogue_bind_of_run rfl
  · exact dialogue_parsed_bind ..

theorem dialogue_nextAddress_bind (context : Operand.Context) (f : Address → Action Unit) :
    (nextAddress context >>= f).dialogue (.start help s words) =
      whenRead s (Operand.address s context (words.headD "")) fun a =>
        (f a).dialogue (.start help s (words.drop 1)) := by
  simp only [nextAddress, bind_assoc, dialogue_nextArgument_bind, dialogue_session_bind]
  exact dialogue_parsed_bind ..

/-! ## Requests -/

/-- A query in front of an action: a failed request ends the command. -/
theorem dialogue_query_bind (q : Query α) (f : α → Action Unit) :
    (query q >>= f).dialogue (.start help s words) = q.run >>= fun
      | .ok a => (f a).dialogue (.start help s words)
      | .error e => .done (.failed s (.host e)) := by
  unfold dialogue
  show (((q.run >>= _) >>= _) >>= _) = _
  rw [bind_assoc, bind_assoc]
  congr 1
  funext answer
  cases answer <;> rfl

/-! ## Endings -/

theorem dialogue_write (output : List Output) :
    (write output).dialogue (.start help s words) = .done ⟨.continue, s, output⟩ := by
  rw [dialogue_of_run rfl]
  simp [Console.outcome, Context.start]

theorem dialogue_print (lines : List String) :
    (print lines).dialogue (.start help s words) = .done ⟨.continue, s, lines.map .info⟩ :=
  dialogue_write help s words (lines.map .info)

theorem dialogue_showRegisters (r : Registers) :
    (showRegisters r).dialogue (.start help s words) =
      .done ⟨.continue, s.update r, (Listing.registers r).map .info⟩ := by
  rw [showRegisters, dialogue_bind_of_run rfl]
  exact dialogue_print help (s.update r) words (Listing.registers r)

end Start

end Action

end DebugConsole
