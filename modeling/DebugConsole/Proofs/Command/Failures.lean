import DebugConsole.Proofs.Command.Orders

/-!
# Failed requests

A command has no way to go on after a failed request. Its conversation goes through, or breaks off
at the first failure and is reported.

- **Dialogues** (`Dialogue.Reports`): every request of the dialogue reports its own failure, against
  a session that satisfies a predicate; nothing else in the dialogue reports a failure.
- **Conversations** (`Conversation.Ends`): what that means on a host (`Reports.ends`).
- **Orders** (`Order.reports`): failures leave the session alone, except behind the request that the
  first listing makes for its address.
-/

namespace DebugConsole

variable {σ : Type} {P : Session → Prop}

@[simp] theorem Output.info_ne_error (text text' : String) : info text ≠ error text' := by
  simp [info, error]

@[simp] theorem Output.error_ne_clear (text : String) : error text ≠ clear := by
  simp [error]

/-- No line of the outcome reports a failure. -/
def Outcome.Clean (o : Outcome) : Prop :=
  ∀ text, .error text ∉ o.output

theorem Outcome.clean_of_info {proceed : Proceed} {s : Session} (lines : List String) :
    Outcome.Clean ⟨proceed, s, lines.map .info⟩ := by
  intro text
  simp

/-- A request that was answered. -/
def Exchange.Answered (x : Exchange) : Prop :=
  ∃ reply, x.reply = .ok reply

/-- The last of some requests was refused, and only that one. -/
def Exchange.BrokenOff (exchanges : List Exchange) (e : HostFailure) : Prop :=
  ∃ before r, exchanges = before ++ [⟨r, .error e⟩] ∧ ∀ x ∈ before, x.Answered

namespace Exchange

theorem BrokenOff.not_nil {e : HostFailure} : ¬ BrokenOff [] e := by
  rintro ⟨before, r, hnil, -⟩
  simp at hnil

theorem brokenOff_single_iff {r : Request} {e e' : HostFailure} :
    BrokenOff [⟨r, .error e⟩] e' ↔ e' = e := by
  constructor
  · rintro ⟨before, r', hbefore, -⟩
    obtain ⟨-, hlast⟩ := List.append_eq_singleton_iff.mp hbefore.symm |>.resolve_right (by simp)
    cases hlast
    rfl
  · rintro rfl
    exact ⟨[], r, rfl, by simp⟩

/-- An answered request in front makes no difference. -/
theorem brokenOff_cons_iff {x : Exchange} (hx : x.Answered) {exchanges : List Exchange}
    {e : HostFailure} : BrokenOff (x :: exchanges) e ↔ BrokenOff exchanges e := by
  constructor
  · rintro ⟨before, r, hbefore, hanswered⟩
    cases before with
    | nil =>
      obtain ⟨reply, hreply⟩ := hx
      rw [List.nil_append, List.cons.injEq] at hbefore
      obtain ⟨rfl, -⟩ := hbefore
      cases hreply
    | cons y before =>
      rw [List.cons_append, List.cons.injEq] at hbefore
      exact ⟨before, r, hbefore.2, (List.forall_mem_cons.mp hanswered).2⟩
  · rintro ⟨before, r, rfl, hanswered⟩
    exact ⟨x :: before, r, rfl, List.forall_mem_cons.mpr ⟨hx, hanswered⟩⟩

end Exchange

/-- A dialogue whose requests each end it with their failure, against a session that satisfies `P`;
it reports no other failure. -/
inductive Dialogue.Reports (P : Session → Prop) : Dialogue Outcome → Prop where
  | done {o : Outcome} (h : o.Clean) : Reports P (.done o)
  | ask {s : Session} {r : Request} {next : r.Reply → Dialogue Outcome} (hs : P s)
      (h : ∀ reply, Reports P (next reply)) : Reports P (.orFail s r next)

/-- How a conversation ends whose failures are reported. -/
inductive Conversation.Ends (P : Session → Prop) (c : Conversation σ Outcome) : Prop where
  | through (hvalue : c.value.Clean) (h : ∀ x ∈ c.exchanges, x.Answered)
  | broken {s : Session} {e : HostFailure} (hs : P s) (hvalue : c.value = .failed s (.host e))
      (h : Exchange.BrokenOff c.exchanges e)

namespace Dialogue

variable {d : Dialogue Outcome} {s : Session} {r : Request} {next : r.Reply → Dialogue Outcome}

theorem converse_orFail_ok {host : Host σ} {x x' : σ} {reply : r.Reply}
    (h : host r x = (.ok reply, x')) :
    (Dialogue.orFail s r next).converse host x =
      let rest := (next reply).converse host x'
      { rest with exchanges := ⟨r, .ok reply⟩ :: rest.exchanges } := by
  simp only [orFail, converse, h]

theorem converse_orFail_error {host : Host σ} {x x' : σ} {e : HostFailure}
    (h : host r x = (.error e, x')) :
    (Dialogue.orFail s r next).converse host x =
      ⟨.failed s (.host e), [⟨r, .error e⟩], x'⟩ := by
  simp only [orFail, converse, h]

theorem Reports.ends (h : d.Reports P) (host : Host σ) (x : σ) :
    (d.converse host x).Ends P := by
  induction h generalizing x with
  | done h => exact .through h (by simp)
  | @ask s r next hs _ ih =>
    rcases hhost : host r x with ⟨reply | reply, x'⟩
    · rw [converse_orFail_error hhost]
      exact .broken hs rfl (Exchange.brokenOff_single_iff.mpr rfl)
    · rw [converse_orFail_ok hhost]
      have hfirst : Exchange.Answered ⟨r, .ok reply⟩ := ⟨reply, rfl⟩
      cases ih reply x' with
      | through hvalue hrest => exact .through hvalue (List.forall_mem_cons.mpr ⟨hfirst, hrest⟩)
      | broken hs' hvalue hrest => exact .broken hs' hvalue ((Exchange.brokenOff_cons_iff hfirst).mpr hrest)

end Dialogue

/-! ## Orders -/

namespace Order

open Dialogue

theorem single_reports {s : Session} {r : Request} (h : P s) : (single s r).Reports P :=
  .ask h fun reply => .done (Outcome.clean_of_info (r.answerLines reply))

theorem stepOverFrom_reports {s : Session} (h : P s) (r : Registers) (slots : List Descriptor) :
    (stepOverFrom s r slots).Reports P := by
  refine .ask h fun code => ?_
  split
  · exact .ask h fun _ => .done (Outcome.clean_of_info [_])
  · exact single_reports h

/-- What an order writes by itself reports no failure. -/
def Quiet : Order → Prop
  | .write output => ∀ text, .error text ∉ output
  | _ => True

theorem Of.quiet {help words : List String} {name : String} {o : Order}
    (h : Of help words name o) : o.Quiet := by
  cases h <;> simp [Quiet]

/-- An order fails against the session it started with, or against one that the first listing has
brought up to date. -/
theorem reports {o : Order} {s : Session} (hquiet : o.Quiet) (hs : P s)
    (hfirst : o = .disassembleHere → s.synced = false → ∀ r, P (s.update r)) :
    (o.dialogue s).Reports P := by
  cases o with
  | write output => exact .done hquiet
  | leave => exact .done (by simp [Outcome.Clean])
  | request r => exact single_reports hs
  | disassembleHere =>
    cases hsynced : s.synced with
    | true =>
      rw [dialogue_disassembleHere hsynced]
      exact single_reports hs
    | false =>
      rw [dialogue_disassembleHere_first hsynced]
      exact .ask hs fun r => single_reports (P := P) (hfirst rfl hsynced r)
  | stepOver =>
    refine .ask hs fun r => ?_
    split
    · exact .ask hs (stepOverFrom_reports hs r)
    · exact .ask hs (stepOverFrom_reports hs r)

end Order

end DebugConsole
