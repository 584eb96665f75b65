import DebugConsole.Proofs.Console.Snapshots
import DebugConsole.Proofs.Screen.Messages

/-!
# Decoders

Which decoders the lines of a run make. Here a code size is any number of bits, of which only 16 and
32 have a decoder (`Decodable`), and every decoder that is made leaves its number behind (`trace`).

- **Sizes** (`bitsOfSelector_eq`, `targetOfBits_eq`): on the numbers that have a decoder, a number is
  as good as a code size.
- **Lines** (`decodesSafely`): a traced line is the line itself, and makes decoders for decodable
  numbers only, if the session falls back to such a number.
- **Runs** (`history_decodesSafely`, `App.steps_decodesSafely`): the session keeps the number that it
  falls back to, and the log its capacity.
-/

namespace DebugConsole

variable {σ α β : Type}

/-! ## Sizes -/

/-- A number of bits that there is a decoder for. -/
def Decodable (bits : Nat) : Prop :=
  bits = 16 ∨ bits = 32

/-- The number of bits of the code that a selector names: that of the segment in its slot if the
segment holds code, and else the fallback. -/
def bitsOfSelector (slots : List Descriptor) (selector : UInt16) (fallback : Nat) : Nat :=
  match slotOf? slots selector with
  | some (.segment seg) => if seg.kind.isCode then if seg.big then 32 else 16 else fallback
  | _ => fallback

/-- The target of stepping over that a decoder for some number of bits finds. -/
def targetOfBits (bits : Nat) (a : Address) (code : List UInt8) : Option Address :=
  (CodeSize.ofBits? bits).bind fun size => stepOverTarget size a code

theorem CodeSize.decodable_bits (size : CodeSize) : Decodable size.bits := by
  cases size with
  | bits16 => exact .inl rfl
  | bits32 => exact .inr rfl

theorem bitsOfSelector_eq (slots : List Descriptor) (selector : UInt16) (size : CodeSize) :
    bitsOfSelector slots selector size.bits = (CodeSize.ofSelector slots selector size).bits := by
  unfold bitsOfSelector CodeSize.ofSelector
  rcases slotOf? slots selector with _ | seg | gate
  · rfl
  · simp only [Option.bind_some, CodeSize.ofSlot]
    cases seg.kind.isCode with
    | false => rfl
    | true => cases hbig : seg.big <;> simp [CodeSize.ofBig, CodeSize.bits]
  · rfl

theorem targetOfBits_eq (size : CodeSize) (a : Address) (code : List UInt8) :
    targetOfBits size.bits a code = stepOverTarget size a code := by
  cases size <;> rfl

theorem decodable_bitsOfSelector {fallback : Nat} (h : Decodable fallback)
    (slots : List Descriptor) (selector : UInt16) :
    Decodable (bitsOfSelector slots selector fallback) := by
  unfold bitsOfSelector
  split
  · split
    · split
      · exact .inr rfl
      · exact .inl rfl
    · exact h
  · exact h

/-! ## Lines -/

/-- What a line leads to, with the numbers of bits that it made decoders for. -/
structure Traced where
  outcome : Outcome
  decoders : List Nat

namespace Traced

/-- No decoder is made. -/
def silent (o : Outcome) : Traced :=
  ⟨o, []⟩

/-- A request in a command, as in `Dialogue.orFail`. -/
def orFail (s : Session) (r : Request) (next : r.Reply → Dialogue Traced) : Dialogue Traced :=
  .ask r fun
    | .ok reply => next reply
    | .error e => .done (silent (.failed s (.host e)))

/-- The rest of stepping over at a snapshot, once the descriptor table is known. -/
def stepOverFrom (bits : Nat) (s : Session) (r : Registers) (slots : List Descriptor) :
    Dialogue Traced :=
  orFail s (.readMemory r.ip (Int32.ofNat Instruction.maxLength)) fun code =>
    let bits := bitsOfSelector slots r.cs bits
    (⟨·, [bits]⟩) <$>
      match targetOfBits bits r.ip code with
      | some target =>
        Dialogue.orFail s (.runTo target) fun _ =>
          .done ⟨.continue, s, [.info ("Running to " ++ target.text)]⟩
      | none => Order.single s .stepIn

/-- Stepping over where code without a descriptor has some number of bits. -/
def stepOver (bits : Nat) (s : Session) : Dialogue Traced :=
  orFail s .getState fun r =>
    if selectsLocal r.cs then orFail s .localTable (stepOverFrom bits s r)
    else orFail s .globalTable (stepOverFrom bits s r)

end Traced

/-- A line with the decoders that it makes, where code without a descriptor has some number of
bits. -/
def Console.trace (bits : Nat) (s : Session) (line : String) : Dialogue Traced :=
  match reading s line with
  | .order .stepOver => Traced.stepOver bits s
  | other => Traced.silent <$> other.dialogue s

namespace Traced

variable {s : Session} {bits : Nat}

theorem outcome_orFail {r : Request} {next : r.Reply → Dialogue Traced}
    {next' : r.Reply → Dialogue Outcome} (h : ∀ reply, outcome <$> next reply = next' reply) :
    outcome <$> orFail s r next = Dialogue.orFail s r next' := by
  refine Dialogue.ask_congr fun reply => ?_
  cases reply with
  | ok reply => exact h reply
  | error e => rfl

theorem outcome_stepOverFrom (r : Registers) (slots : List Descriptor) :
    outcome <$> stepOverFrom s.codeSize.bits s r slots = Order.stepOverFrom s r slots := by
  refine outcome_orFail fun code => ?_
  simp only [bitsOfSelector_eq, targetOfBits_eq, Functor.map_map]
  exact id_map _

theorem outcome_stepOver : outcome <$> stepOver s.codeSize.bits s = Order.stepOver.dialogue s := by
  refine outcome_orFail fun r => ?_
  split
  · exact outcome_orFail fun slots => outcome_stepOverFrom r slots
  · exact outcome_orFail fun slots => outcome_stepOverFrom r slots

/-- A dialogue that makes decoders for decodable numbers only, whatever the host says. -/
def Safe : Dialogue Traced → Prop
  | .done t => ∀ n ∈ t.decoders, Decodable n
  | .ask _ next => ∀ reply, Safe (next reply)

theorem Safe.decodable {d : Dialogue Traced} (h : Safe d) (host : Host σ) (x : σ) :
    ∀ n ∈ (d.converse host x).value.decoders, Decodable n := by
  induction d generalizing x with
  | done t => exact h
  | ask r next ih => exact ih _ (h _) _

theorem safe_map {f : Outcome → Traced} (h : ∀ o, ∀ n ∈ (f o).decoders, Decodable n)
    (d : Dialogue Outcome) : Safe (f <$> d) := by
  induction d with
  | done o => exact h o
  | ask r next ih => exact fun reply => ih reply

theorem safe_orFail {r : Request} {next : r.Reply → Dialogue Traced}
    (h : ∀ reply, Safe (next reply)) : Safe (orFail s r next) := by
  intro reply
  cases reply with
  | ok reply => exact h reply
  | error e => exact List.forall_mem_nil _

theorem safe_stepOver (h : Decodable bits) : Safe (stepOver bits s) := by
  have hfrom (r : Registers) (slots : List Descriptor) : Safe (stepOverFrom bits s r slots) :=
    safe_orFail fun code => safe_map
      (fun o => by simpa using decodable_bitsOfSelector h slots r.cs) _
  refine safe_orFail fun r => ?_
  split
  · exact safe_orFail (hfrom r)
  · exact safe_orFail (hfrom r)

end Traced

namespace Console

variable {s : Session} {bits : Nat}

/-- A line that does what it does with decoders for decodable numbers of bits only, where code
without a descriptor has some number of bits. -/
structure DecodesSafely (bits : Nat) (s : Session) (line : String) : Prop where
  outcome : Traced.outcome <$> trace bits s line = execute builtinTable s line
  decodable {σ : Type} (host : Host σ) (x : σ) :
    ∀ n ∈ ((trace bits s line).converse host x).value.decoders, Decodable n

theorem decodesSafely (s : Session) (line : String) : DecodesSafely s.codeSize.bits s line := by
  have hsilent (d : Dialogue Outcome) : Traced.outcome <$> Traced.silent <$> d = d := by
    rw [Functor.map_map]
    exact id_map d
  have hsafe (d : Dialogue Outcome) : Traced.Safe (Traced.silent <$> d) :=
    Traced.safe_map (fun o => List.forall_mem_nil _) d
  constructor
  case outcome =>
    rw [execute_eq, trace]
    split
    case h_1 hread =>
      rw [hread]
      exact Traced.outcome_stepOver
    case h_2 => exact hsilent _
  case decodable =>
    intro σ host x
    refine Traced.Safe.decodable ?_ host x
    rw [trace]
    split
    · exact Traced.safe_stepOver s.codeSize.decodable_bits
    · exact hsafe _

end Console

/-! ## Runs -/

theorem Session.foldl_update_codeSize (s : Session) (snapshots : List Registers) :
    (snapshots.foldl update s).codeSize = s.codeSize := by
  induction snapshots generalizing s with
  | nil => rfl
  | cons r rest ih => exact ih (s.update r)

namespace Console

theorem execute_codeSize (host : Host σ) (x : σ) (s : Session) (line : String) :
    ((execute builtinTable s line).converse host x).value.session.codeSize = s.codeSize := by
  have hsession := execute_session host x s line
  simp only at hsession
  rw [hsession, Session.foldl_update_codeSize]

theorem take_codeSize (host : Host σ) (s : Session) (x : σ) (step : Step σ) :
    (take builtinTable host s x step).session.codeSize = s.codeSize := by
  cases step with
  | line text => exact execute_codeSize host x s text
  | stopped | change => rfl

/-- Every line of a history decodes safely. -/
theorem history_decodesSafely (host : Host σ) (s : Session) (x : σ) (steps : List (Step σ)) :
    ∀ b ∈ history builtinTable host s x steps, ∀ line, b.step = .line line →
      DecodesSafely s.codeSize.bits b.before line := by
  induction steps generalizing s x with
  | nil => simp [history]
  | cons step rest ih =>
    rw [history, List.forall_mem_cons]
    constructor
    · intro line _
      rw [take_before]
      exact decodesSafely s line
    · have hcodeSize := take_codeSize host s x step
      rw [← hcodeSize]
      exact ih _ _

end Console

theorem History.capacity_writeAll (h : History) (output : List Output) :
    (h.writeAll output).capacity = h.capacity := by
  induction output generalizing h with
  | nil => rfl
  | cons o rest ih =>
    refine (ih (h.write o)).trans ?_
    cases o <;> rfl

namespace App

variable {host : Host σ} {a : App} {x : σ}

theorem create_value (width height capacity : Nat) (s : Session) (host : Host σ) (x : σ) :
    let a := ((create width height capacity s).converse host x).value
    a.session = s ∧ a.history = .empty capacity := by
  rw [create, Dialogue.converse_bind]
  exact ⟨rfl, rfl⟩

theorem handle_codeSize (message : Message) :
    (a.handle builtinTable host x message).after.session.codeSize = a.session.codeSize := by
  cases message with
  | insert | backspace | stopped | exit => rfl
  | execute =>
    rw [handle_execute]
    exact Console.execute_codeSize host x a.session a.input

theorem handle_capacity (message : Message) :
    (a.handle builtinTable host x message).after.history.capacity = a.history.capacity := by
  rw [history_handle, History.capacity_writeAll]

/-- Every line that is executed on the screen decodes safely, and the log keeps its capacity. -/
theorem steps_decodesSafely (host : Host σ) (a : App) (x : σ) (messages : List Message) :
    ∀ t ∈ a.steps builtinTable host x messages,
      t.after.history.capacity = a.history.capacity ∧
        (t.message = .execute →
          Console.DecodesSafely a.session.codeSize.bits t.before.session t.before.input) := by
  induction messages generalizing a x with
  | nil => simp [steps]
  | cons message rest ih =>
    rw [steps, List.forall_mem_cons]
    refine ⟨⟨handle_capacity message, fun _ => Console.decodesSafely a.session a.input⟩, ?_⟩
    split
    · exact List.forall_mem_nil _
    · have hcodeSize : (a.handle builtinTable host x message).after.session.codeSize =
          a.session.codeSize := handle_codeSize message
      have hcapacity : (a.handle builtinTable host x message).after.history.capacity =
          a.history.capacity := handle_capacity message
      rw [← hcodeSize, ← hcapacity]
      exact ih _ _

end App

end DebugConsole
