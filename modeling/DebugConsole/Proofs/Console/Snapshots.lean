import DebugConsole.Proofs.Command.Orders
import DebugConsole.Proofs.Console.Steps

/-!
# The session and the snapshots

The session holds the last two register snapshots, and nothing else ever changes it
(`session_eq_last_snapshots`).

- **Snapshots** (`Exchange.snapshot?`): which answers count depends on the command, since stepping
  over looks at the state without showing it.
- **Lines** (`execute_session`): a line updates the session with its snapshots, in order. Every order
  does so request by request (`Dialogue.Remembers`), also when a later request fails.
- **Histories**: the session is the initial one, updated with all snapshots.
-/

namespace DebugConsole

variable {σ : Type}

/-- The snapshot that an exchange gives to the session. The state counts only for the two commands
that show it or list code at it. -/
def Exchange.snapshot? (name : String) : Exchange → Option Registers
  | ⟨.pause, .ok v⟩ | ⟨.stepIn, .ok v⟩ | ⟨.stepMultiple _, .ok v⟩ => some v
  | ⟨.getState, .ok v⟩ => if name = "GetState" ∨ name = "Disassemble" then some v else none
  | _ => none

/-- The session after one more exchange. -/
def Session.remember (name : String) (s : Session) (x : Exchange) : Session :=
  ((x.snapshot? name).map s.update).getD s

/-- A dialogue that ends with the session it started with, updated with the snapshots that it got. -/
def Dialogue.Remembers (name : String) (s : Session) : Dialogue Outcome → Prop
  | .done o => o.session = s
  | .ask r next => ∀ reply, (next reply).Remembers name (s.remember name ⟨r, reply⟩)

theorem Session.foldl_filterMap_cons (name : String) (s : Session) (x : Exchange)
    (rest : List Exchange) :
    ((x :: rest).filterMap (Exchange.snapshot? name)).foldl update s =
      (rest.filterMap (Exchange.snapshot? name)).foldl update (s.remember name x) := by
  unfold remember
  cases h : x.snapshot? name with
  | none => simp [h]
  | some v => simp [h]

namespace Dialogue

variable {name : String} {s : Session}

theorem Remembers.session_eq {d : Dialogue Outcome} (h : d.Remembers name s) (host : Host σ)
    (x : σ) :
    let c := d.converse host x
    c.value.session = (c.exchanges.filterMap (Exchange.snapshot? name)).foldl Session.update s := by
  induction d generalizing s x with
  | done o => exact h
  | ask r next ih =>
    simp only [Dialogue.converse]
    rw [Session.foldl_filterMap_cons]
    exact ih _ (h _) _

theorem remembers_orFail {r : Request} {next : r.Reply → Dialogue Outcome}
    (h : ∀ reply, (next reply).Remembers name (s.remember name ⟨r, .ok reply⟩)) :
    (Dialogue.orFail s r next).Remembers name s := by
  intro reply
  cases reply with
  | ok reply => exact h reply
  | error e => cases r <;> rfl

end Dialogue

/-! ## Orders -/

namespace Order

variable {name : String} {s : Session}

/-- An answer is shown as what it is remembered as. -/
theorem single_remembers {r : Request} (h : r = .getState → name = "GetState") :
    (single s r).Remembers name s := by
  refine Dialogue.remembers_orFail fun reply => ?_
  cases r with
  | getState =>
    show s.update reply = s.remember name ⟨.getState, .ok reply⟩
    simp [Session.remember, Exchange.snapshot?, h rfl]
  | _ => rfl

theorem stepOverFrom_remembers (r : Registers) (slots : List Descriptor) :
    (stepOverFrom s r slots).Remembers name s := by
  refine Dialogue.remembers_orFail fun code => ?_
  show Dialogue.Remembers name s _
  split
  · exact Dialogue.remembers_orFail fun _ => rfl
  · exact single_remembers (by simp)

theorem Of.remembers {help words : List String} {o : Order} (h : Of help words name o) :
    (o.dialogue s).Remembers name s := by
  cases h with
  | help | clear | leave | nothing => rfl
  | getState => exact single_remembers fun _ => rfl
  | request hr => exact single_remembers fun h => absurd h hr
  | disassembleHere =>
    cases hsynced : s.synced with
    | true =>
      rw [dialogue_disassembleHere hsynced]
      exact single_remembers (by simp)
    | false =>
      rw [dialogue_disassembleHere_first hsynced]
      exact Dialogue.remembers_orFail fun r => single_remembers (s := s.update r) (by simp)
  | stepOver =>
    -- The state is looked at, but not shown.
    refine Dialogue.remembers_orFail fun r => ?_
    show Dialogue.Remembers "StepOver" s _
    split
    · exact Dialogue.remembers_orFail (stepOverFrom_remembers r)
    · exact Dialogue.remembers_orFail (stepOverFrom_remembers r)

end Order

/-! ## Lines -/

namespace Console

/-- The first name of the command that a line calls. -/
def calledName (line : String) : String :=
  ((command? line).map fun call => Builtin.firstName call.1).getD ""

/-- The order of a line, by the name it calls, if the words behind the name do not matter. -/
theorem reading_of_calledName {line name : String} {s : Session} {o : Order}
    (hline : calledName line = name) (hname : name ≠ "")
    (hread : ∀ words, Order.read builtinTable.help s words name = .ok o) :
    reading s line = .order o := by
  cases hcommand : command? line with
  | none => exact absurd (by simpa [calledName, hcommand] using hline.symm) hname
  | some call =>
    obtain ⟨command, words⟩ := call
    have hfirst : Builtin.firstName command = name := by simpa [calledName, hcommand] using hline
    exact reading_of_command? hcommand (hfirst ▸ hread words)

theorem execute_session (host : Host σ) (x : σ) (s : Session) (line : String) :
    let c := (execute builtinTable s line).converse host x
    c.value.session =
      (c.exchanges.filterMap (Exchange.snapshot? (calledName line))).foldl Session.update s := by
  rw [execute_eq]
  refine Dialogue.Remembers.session_eq ?_ host x
  cases hread : reading s line with
  | nothing | unknown | refused => rfl
  | order o =>
    obtain ⟨command, words, hcommand, hof⟩ := of_reading hread
    have hname : calledName line = Builtin.firstName command := by simp [calledName, hcommand]
    rw [hname]
    exact hof.remembers

/-! ## Histories -/

/-- The snapshots that a step gives to the session, in order. -/
def Stepped.snapshots (b : Stepped σ) : List Registers :=
  match b.step with
  | .line text => b.exchanges.filterMap (Exchange.snapshot? (calledName text))
  | .stopped _ | .change _ => []

/-- A step updates the session with its snapshots. -/
def Stepped.Remembers (b : Stepped σ) : Prop :=
  b.session = b.snapshots.foldl Session.update b.before

theorem take_remembers (host : Host σ) (s : Session) (x : σ) (step : Step σ) :
    (take builtinTable host s x step).Remembers := by
  cases step with
  | line text => exact execute_session host x s text
  | stopped r => rfl
  | change f => rfl

theorem sessionAfter_history (host : Host σ) (s : Session) (x : σ) (steps : List (Step σ)) :
    let history := history builtinTable host s x steps
    sessionAfter s history = (history.flatMap Stepped.snapshots).foldl Session.update s := by
  induction steps generalizing s x with
  | nil => rfl
  | cons step rest ih =>
    have hstep : (take builtinTable host s x step).session =
        (take builtinTable host s x step).snapshots.foldl Session.update s := by
      have h := take_remembers host s x step
      unfold Stepped.Remembers at h
      rwa [take_before] at h
    simp only [history, sessionAfter_cons, List.flatMap_cons, List.foldl_append]
    rw [ih, hstep]

end Console

/-! ## The last two snapshots -/

namespace Session

variable (s : Session) (snapshots : List Registers)

theorem foldl_update_current :
    (snapshots.foldl update s).current = snapshots.getLast?.getD s.current := by
  obtain rfl | ⟨before, v, rfl⟩ := List.eq_nil_or_concat snapshots
  · rfl
  · simp [update]

theorem foldl_update_previous (h : s.previous = s.current) :
    (snapshots.foldl update s).previous = snapshots.dropLast.getLast?.getD s.current := by
  obtain rfl | ⟨before, v, rfl⟩ := List.eq_nil_or_concat snapshots
  · exact h
  · simp [update, foldl_update_current]

theorem foldl_update_synced :
    (snapshots.foldl update s).synced = (s.synced || !snapshots.isEmpty) := by
  obtain rfl | ⟨before, v, rfl⟩ := List.eq_nil_or_concat snapshots
  · simp
  · simp [update]

end Session

namespace Console

/-- A fresh session that has gone through any steps holds the last snapshot that these gave to it
and the one before, and has a state if there was one. A step without snapshots leaves the session
as it was. -/
theorem session_eq_last_snapshots (host : Host σ) (x : σ) (resolve : String → Option UInt32)
    (codeSize : CodeSize) (steps : List (Step σ)) :
    let fresh : Session := { resolve, codeSize }
    let history := history builtinTable host fresh x steps
    let snapshots := history.flatMap Stepped.snapshots
    let s := sessionAfter fresh history
    s.current = snapshots.getLast?.getD {} ∧ s.previous = snapshots.dropLast.getLast?.getD {} ∧
    (s.synced = true ↔ snapshots ≠ []) ∧
    ∀ b ∈ history, b.snapshots = [] → b.session = b.before := by
  intro fresh history snapshots s
  have hs : s = snapshots.foldl Session.update fresh := sessionAfter_history host fresh x steps
  refine ⟨?_, ?_, ?_, fun b hb hnone => ?_⟩
  · rw [hs, Session.foldl_update_current]
  · rw [hs, Session.foldl_update_previous fresh snapshots rfl]
  · rw [hs, Session.foldl_update_synced]
    simp [fresh]
  · have hremembers : b.Remembers := history_forall (take_remembers host) fresh x steps b hb
    rw [hremembers, hnone]
    rfl

end Console

end DebugConsole
