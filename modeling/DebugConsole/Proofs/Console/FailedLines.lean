import DebugConsole.Host.Scripted
import DebugConsole.Proofs.Command.Failures

/-!
# Failed lines

A line that reports an error has done nothing else (`failed_line_atomic`): the report is all of its
output, and the console goes on.

- **Unknown commands and refused operands** are found before the host is asked anything.
- **Refused requests** end the line. The session is the one before it, unless the line is a listing
  without an address whose first request has brought the session up to date (`BrokenListing`).
-/

namespace DebugConsole

variable {σ : Type}

/-- The host was asked nothing, and everything is as before. -/
structure Conversation.Untouched (c : Conversation σ Outcome) (s : Session) (x : σ) : Prop where
  exchanges : c.exchanges = []
  session : c.value.session = s
  host : c.host = x

/-- The host answered with the snapshot `v`, then refused to list the code there. -/
def Conversation.RefusedListing (c : Conversation σ Outcome) (v : Registers) : Prop :=
  ∃ e, c.exchanges =
    [⟨.getState, .ok v⟩, ⟨.disassemble v.ip Builtin.defaultInstructions, .error e⟩]

theorem Outcome.error_mem_failed {s : Session} {e : CommandError} {text : String}
    (h : .error text ∈ (failed s e).output) : text = e.message := by
  simpa [failed, Output.error] using h

theorem Conversation.Ends.of_error {P : Session → Prop} {c : Conversation σ Outcome}
    (h : c.Ends P) {text : String} (herror : .error text ∈ c.value.output) :
    ∃ s e, P s ∧ text = (CommandError.host e).message ∧ c.value = .failed s (.host e) ∧
      Exchange.BrokenOff c.exchanges e := by
  cases h with
  | through hvalue => exact absurd herror (hvalue text)
  | @broken s e hs hvalue hbroken =>
    have htext : text = (CommandError.host e).message :=
      Outcome.error_mem_failed (hvalue ▸ herror)
    exact ⟨s, e, hs, htext, hvalue, hbroken⟩

namespace Console

/-- The name that a line calls, if no command has it. -/
def Unknown (line name : String) : Prop :=
  (∃ words, call? line = some (name, words)) ∧ builtinTable.find? name = none

theorem of_reading_unknown {s : Session} {line name : String}
    (h : reading s line = .unknown name) : Unknown line name := by
  unfold reading at h
  cases hcall : call? line with
  | none => simp [hcall] at h
  | some call =>
    obtain ⟨name', words⟩ := call
    simp only [hcall] at h
    cases hfind : builtinTable.find? name' with
    | some command =>
      simp only [hfind] at h
      split at h <;> cases h
    | none =>
      simp only [hfind, Reading.unknown.injEq] at h
      subst h
      exact ⟨⟨words, hcall⟩, hfind⟩

/-- A listing without an address. -/
def ListsHere (line : String) : Prop :=
  ∃ command, command? line = some (command, []) ∧ Builtin.firstName command = "Disassemble"

theorem reading_listsHere_iff {s : Session} {line : String} :
    reading s line = .order .disassembleHere ↔ ListsHere line := by
  constructor
  · intro h
    obtain ⟨command, words, hcommand, hof⟩ := of_reading h
    generalize hname : Builtin.firstName command = name at hof
    cases hof with
    | disassembleHere hwords => exact ⟨command, hwords ▸ hcommand, hname⟩
  · rintro ⟨command, hcommand, hname⟩
    exact reading_of_command? hcommand (by rw [hname]; rfl)

end Console

/-! ## Orders -/

namespace Order

variable {host : Host σ} {x : σ} {s : Session} {text : String}

/-- The order is the first listing of a session, which got the snapshot `v` and then failed. -/
def FirstBroken (o : Order) (s : Session) (c : Conversation σ Outcome) (v : Registers) : Prop :=
  o = .disassembleHere ∧ s.synced = false ∧ c.RefusedListing v

/-- What a failed order leaves behind. -/
structure Fails (o : Order) (s : Session) (c : Conversation σ Outcome) (text : String) : Prop where
  output : c.value.output = [.error text]
  proceed : c.value.proceed = .continue
  refused : ∃ e, text = (CommandError.host e).message ∧ Exchange.BrokenOff c.exchanges e
  updated (v : Registers) (h : o.FirstBroken s c v) : c.value.session = s.update v
  kept (h : ∀ v, ¬ o.FirstBroken s c v) : c.value.session = s

/-- An order that fails leaves the session alone, apart from the first listing of a session. -/
theorem fails_of_kept {o : Order} (hquiet : o.Quiet)
    (hfirst : o = .disassembleHere → s.synced = true)
    (herror : .error text ∈ ((o.dialogue s).converse host x).value.output) :
    o.Fails s ((o.dialogue s).converse host x) text := by
  have hreports : (o.dialogue s).Reports (· = s) :=
    reports hquiet rfl fun ho hs => absurd (hfirst ho) (by simp [hs])
  obtain ⟨t, e, rfl, rfl, hvalue, hrefused⟩ := (hreports.ends host x).of_error herror
  refine ⟨by rw [hvalue]; rfl, by rw [hvalue]; rfl, ⟨e, rfl, hrefused⟩, ?_, ?_⟩
  · rintro v ⟨ho, hs, -⟩
    exact absurd (hfirst ho) (by simp [hs])
  · intro _
    rw [hvalue]
    rfl

/-- The first listing of a session: the state is refused, or the listing is, or neither. -/
theorem converse_first_listing (hs : s.synced = false) (host : Host σ) (x : σ) :
    let c := (disassembleHere.dialogue s).converse host x
    (∃ e x', c = ⟨.failed s (.host e), [⟨.getState, .error e⟩], x'⟩) ∨
    ∃ v x', let r := .disassemble v.ip Builtin.defaultInstructions
      (∃ e, c = ⟨.failed (s.update v) (.host e), [⟨.getState, .ok v⟩, ⟨r, .error e⟩], x'⟩) ∨
      ∃ items, c = ⟨.answered (s.update v) r items, [⟨.getState, .ok v⟩, ⟨r, .ok items⟩], x'⟩ := by
  rw [dialogue_disassembleHere_first hs]
  rcases hstate : host .getState x with ⟨e | v, x₁⟩
  · rw [Dialogue.converse_orFail_error hstate]
    exact .inl ⟨e, x₁, rfl⟩
  · rw [Dialogue.converse_orFail_ok hstate]
    rcases hlist : host (.disassemble (Registers.ip v) Builtin.defaultInstructions) x₁ with
      ⟨e | items, x₂⟩
    · rw [single, Dialogue.converse_orFail_error hlist]
      exact .inr ⟨v, x₂, .inl ⟨e, rfl⟩⟩
    · rw [single, Dialogue.converse_orFail_ok hlist]
      exact .inr ⟨v, x₂, .inr ⟨items, rfl⟩⟩

theorem fails_first_listing (hs : s.synced = false)
    (herror : .error text ∈ ((disassembleHere.dialogue s).converse host x).value.output) :
    disassembleHere.Fails s ((disassembleHere.dialogue s).converse host x) text := by
  obtain ⟨e, x', hc⟩ | ⟨v, x', ⟨e, hc⟩ | ⟨items, hc⟩⟩ := converse_first_listing hs host x
  all_goals rw [hc] at herror ⊢
  · obtain rfl : text = (CommandError.host e).message := Outcome.error_mem_failed herror
    refine ⟨rfl, rfl, ⟨e, rfl, Exchange.brokenOff_single_iff.mpr rfl⟩, ?_, fun _ => rfl⟩
    rintro v ⟨-, -, e', hexchanges⟩
    simp at hexchanges
  · obtain rfl : text = (CommandError.host e).message := Outcome.error_mem_failed herror
    have hbroken : Exchange.BrokenOff [⟨.getState, .ok v⟩,
        ⟨.disassemble v.ip Builtin.defaultInstructions, .error e⟩] e :=
      (Exchange.brokenOff_cons_iff ⟨v, rfl⟩).mpr (Exchange.brokenOff_single_iff.mpr rfl)
    refine ⟨rfl, rfl, ⟨e, rfl, hbroken⟩, ?_, fun h => absurd ⟨rfl, hs, e, rfl⟩ (h v)⟩
    rintro v' ⟨-, -, e', hexchanges⟩
    have hstate : (⟨.getState, .ok v⟩ : Exchange) = ⟨.getState, .ok v'⟩ :=
      (List.cons.inj hexchanges).1
    obtain rfl : v = v' := by simpa using hstate
    rfl
  · exact absurd herror (Outcome.clean_of_info _ text)

theorem fails_of_error {o : Order} (hquiet : o.Quiet)
    (herror : .error text ∈ ((o.dialogue s).converse host x).value.output) :
    o.Fails s ((o.dialogue s).converse host x) text := by
  -- Only the first listing has a request behind a changed session.
  by_cases hfirst : o = .disassembleHere ∧ s.synced = false
  · obtain ⟨rfl, hs⟩ := hfirst
    exact fails_first_listing hs herror
  · refine fails_of_kept hquiet (fun ho => ?_) herror
    simpa using fun hs => hfirst ⟨ho, hs⟩

end Order

/-! ## Lines -/

namespace Console

/-- A listing without an address, on a session without a snapshot, that got the snapshot `v` and
then failed. -/
def BrokenListing (s : Session) (line : String) (c : Conversation σ Outcome) (v : Registers) :
    Prop :=
  ListsHere line ∧ s.synced = false ∧ c.RefusedListing v

theorem brokenListing_iff {s : Session} {line : String} {o : Order} (h : reading s line = .order o)
    {c : Conversation σ Outcome} {v : Registers} :
    BrokenListing s line c v ↔ o.FirstBroken s c v := by
  have hhere : ListsHere line ↔ o = .disassembleHere := by
    rw [← reading_listsHere_iff (s := s), h, Reading.order.injEq]
  unfold BrokenListing Order.FirstBroken
  rw [hhere]

/-- A line that reports an error has no other output, and does not leave the console. If a command
is unknown or an operand refused, nothing was asked and nothing has changed. If a request was
refused, it was the last one and the session has not changed either, except that a listing without
an address may have got the first snapshot of the session before. -/
theorem failed_line_atomic (host : Host σ) (x : σ) (s : Session) (line text : String)
    (herror : .error text ∈ ((execute builtinTable s line).converse host x).value.output) :
    let c := (execute builtinTable s line).converse host x
    c.value.output = [.error text] ∧ c.value.proceed = .continue ∧
    ((∃ name, Unknown line name ∧ text = "Unknown command \"" ++ name ++ "\"" ∧
        c.Untouched s x) ∨
      (∃ e : OperandError, text = "Parse error: " ++ e.message ∧ c.Untouched s x) ∨
      (∃ e : HostFailure, text = "Host error: " ++ e.message ∧ Exchange.BrokenOff c.exchanges e ∧
        (∀ v, BrokenListing s line c v → c.value.session = s.update v) ∧
        ((∀ v, ¬ BrokenListing s line c v) → c.value.session = s))) := by
  rw [execute_eq] at herror ⊢
  cases hread : reading s line with
  | nothing => simp [hread, Reading.dialogue] at herror
  | unknown name =>
    obtain rfl : text = "Unknown command \"" ++ name ++ "\"" := by
      simpa [hread, Reading.dialogue, Output.error] using herror
    exact ⟨rfl, rfl, .inl ⟨name, of_reading_unknown hread, rfl, rfl, rfl, rfl⟩⟩
  | refused e =>
    rw [hread] at herror
    obtain rfl : text = (CommandError.operand e).message := Outcome.error_mem_failed herror
    exact ⟨rfl, rfl, .inr (.inl ⟨e, rfl, rfl, rfl, rfl⟩)⟩
  | order o =>
    rw [hread] at herror
    obtain ⟨_, _, -, hof⟩ := of_reading hread
    have hfails : o.Fails s ((o.dialogue s).converse host x) text :=
      Order.fails_of_error hof.quiet herror
    obtain ⟨e, htext, hrefused⟩ := hfails.refused
    refine ⟨hfails.output, hfails.proceed, .inr (.inr ⟨e, htext, hrefused, fun v hbroken => ?_,
      fun hnone => ?_⟩)⟩
    · exact hfails.updated v ((brokenListing_iff hread).mp hbroken)
    · exact hfails.kept fun v hbroken => hnone v ((brokenListing_iff hread).mpr hbroken)

/-- The first listing on a host that has a state but no code. -/
theorem failed_first_listing :
    let s : Session := { resolve := fun _ => none, codeSize := .bits16 }
    let host : ScriptedHost := { failures := [("Disassemble", "no code")] }
    let c := (execute builtinTable s "u").converse ScriptedHost.answer host
    .error "Host error: no code" ∈ c.value.output ∧
      c.value.output = [.error "Host error: no code"] ∧ c.value.proceed = .continue := by
  intro s host c
  have herror : .error "Host error: no code" ∈ c.value.output := by decide +kernel
  obtain ⟨houtput, hproceed, -⟩ := failed_line_atomic ScriptedHost.answer host s "u" _ herror
  exact ⟨herror, houtput, hproceed⟩

end Console

end DebugConsole
