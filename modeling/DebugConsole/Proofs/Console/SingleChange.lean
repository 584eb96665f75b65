import DebugConsole.Host.Scripted
import DebugConsole.Proofs.Command.Asking

/-!
# One change a line

A line changes the host at most once, with its last request, and stops at the first refused request
(`line_changes_once`).

- **Failing hosts** (`Host.FailsSome`): a host that answers as another one does, but refuses some
  requests. What it does after a refusal is left open.
- **Cut conversations** (`Conversation.CutOff`): on such a host a dialogue goes as on the other one,
  up to the first refused request (`Dialogue.Asks.cutOff`).
-/

namespace DebugConsole

variable {σ τ : Type}

/-! ## Failing hosts -/

/-- From related states, `failing` refuses a request, or answers it as `host` does; the states behind
an answer are related again. -/
def Host.FailsSome (host : Host σ) (failing : Host τ) (R : σ → τ → Prop) : Prop :=
  ∀ x y, R x y → ∀ r, (∃ e, (failing r y).1 = .error e) ∨
    ((failing r y).1 = (host r x).1 ∧ R (host r x).2 (failing r y).2)

namespace ScriptedHost

/-- What a scripted host answers, when it does, has nothing to do with the methods that fail. -/
theorem perform_failures (h : ScriptedHost) (failures : List (String × String)) (r : Request) :
    { h with failures }.perform r = ((h.perform r).1, { (h.perform r).2 with failures }) := by
  cases r with
  | readMemory a length =>
    unfold perform
    by_cases hlength : 0 ≤ length.toInt ∧ length.toInt ≤ memoryLimit
    · simp only [hlength, and_self, if_true]
      rfl
    · simp only [hlength, if_false]
  | _ => rfl

theorem perform_keeps_failures (h : ScriptedHost) (r : Request) :
    (h.perform r).2.failures = h.failures := by
  cases r with
  | readMemory a length =>
    show (ite _ _ _ : _ × ScriptedHost).2.failures = _
    split <;> rfl
  | _ => rfl

/-- A scripted host that is told to fail some methods, beside one that fails none. -/
theorem answer_failsSome (failures : List (String × String)) :
    answer.FailsSome answer fun (x y : ScriptedHost) =>
      x.failures = [] ∧ y = { x with failures } := by
  rintro x y ⟨hx, rfl⟩ r
  have hnone : x.failure? r.method = none := by simp [failure?, hx]
  cases hfailure : ({ x with failures } : ScriptedHost).failure? r.method with
  | some e => exact .inl ⟨e, by simp only [answer, hfailure]⟩
  | none =>
    simp only [answer, hfailure, hnone, perform_failures, perform_keeps_failures]
    exact .inr ⟨trivial, hx, trivial⟩

end ScriptedHost

/-! ## Cut conversations -/

/-- The conversation `short` goes as `whole` does: up to its own first refused request, or to the
end. -/
inductive Conversation.CutOff (whole : Conversation σ Outcome) (short : Conversation τ Outcome) :
    Prop where
  | refused {e : HostFailure} (hrefused : Exchange.BrokenOff short.exchanges e)
      (hbefore : short.exchanges.dropLast <+: whole.exchanges)
      (hrequests : short.requests <+: whole.requests)
  | through (hanswered : ∀ y ∈ short.exchanges, y.Answered)
      (hexchanges : short.exchanges = whole.exchanges) (hvalue : short.value = whole.value)

namespace Conversation

variable {whole : Conversation σ Outcome} {short : Conversation τ Outcome}

theorem CutOff.requests_prefix (h : whole.CutOff short) : short.requests <+: whole.requests := by
  cases h with
  | refused _ _ hrequests => exact hrequests
  | through _ hexchanges _ =>
    have hrequests : short.requests = whole.requests := congrArg (List.map _) hexchanges
    exact ⟨[], by rw [List.append_nil, hrequests]⟩

/-- An answered request in front of both. -/
theorem CutOff.cons (h : whole.CutOff short) {y : Exchange} (hy : y.Answered) :
    CutOff { whole with exchanges := y :: whole.exchanges }
      { short with exchanges := y :: short.exchanges } := by
  cases h with
  | @refused e hrefused hbefore hrequests =>
    have hne : short.exchanges ≠ [] := by
      intro hnil
      rw [hnil] at hrefused
      exact Exchange.BrokenOff.not_nil hrefused
    refine .refused ((Exchange.brokenOff_cons_iff hy).mpr hrefused) ?_ ?_
    · show (y :: short.exchanges).dropLast <+: y :: whole.exchanges
      rw [List.dropLast_cons_of_ne_nil hne]
      exact (List.prefix_cons_inj y).mpr hbefore
    · exact (List.prefix_cons_inj y.request).mpr hrequests
  | through hanswered hexchanges hvalue =>
    exact .through (List.forall_mem_cons.mpr ⟨hy, hanswered⟩) (by simp [hexchanges]) hvalue

end Conversation

namespace Dialogue

variable {d : Dialogue Outcome} {P Q : Request → Prop} {host : Host σ} {failing : Host τ}
  {R : σ → τ → Prop}

/-- A refusal of the first request cuts everything off. -/
theorem cutOff_orFail_error {s : Session} {r : Request} {next : r.Reply → Dialogue Outcome} {y : τ}
    {e : HostFailure} (h : (failing r y).1 = .error e) (host : Host σ) (x : σ) :
    ((orFail s r next).converse host x).CutOff ((orFail s r next).converse failing y) := by
  have hy : failing r y = (.error e, (failing r y).2) := Prod.ext h rfl
  rw [converse_orFail_error hy]
  refine .refused (Exchange.brokenOff_single_iff.mpr rfl) List.nil_prefix ?_
  exact (List.prefix_cons_inj r).mpr List.nil_prefix

/-- On a host that fails some requests, a dialogue goes as on the other one up to the first refused
request. -/
theorem Asks.cutOff (h : d.Asks P Q) (hfails : host.FailsSome failing R) {x : σ} {y : τ}
    (hxy : R x y) : (d.converse host x).CutOff (d.converse failing y) := by
  -- An answer that both hosts give leads to related states, where the rest is cut off alike.
  have hstep {s : Session} {r : Request} {next : r.Reply → Dialogue Outcome} {x : σ} {y : τ}
      (hxy : R x y) (hnext : ∀ reply x y, R x y →
        ((next reply).converse host x).CutOff ((next reply).converse failing y)) :
      ((orFail s r next).converse host x).CutOff ((orFail s r next).converse failing y) := by
    rcases hy : failing r y with ⟨e | reply, y'⟩
    · exact cutOff_orFail_error (by rw [hy]) host x
    · obtain ⟨e, he⟩ | ⟨halike, hrelated⟩ := hfails x y hxy r
      · rw [hy] at he
        cases he
      · rw [hy] at halike hrelated
        have hx : host r x = (.ok reply, (host r x).2) := Prod.ext halike.symm rfl
        rw [converse_orFail_ok hx, converse_orFail_ok hy]
        exact (hnext reply _ _ hrelated).cons ⟨reply, rfl⟩
  induction h generalizing x y with
  | done o => exact .through (by simp) rfl rfl
  | last f _ => exact hstep hxy fun reply x y _ => .through (by simp) rfl rfl
  | more _ _ ih => exact hstep hxy fun reply x y hxy => ih reply hxy

end Dialogue

/-! ## Lines -/

theorem Order.permits_looking :
    Order.Permits (fun r => r.changesMachine = false) fun _ => True where
  state := rfl
  localTable := rfl
  globalTable := rfl
  code _ := rfl
  run _ := trivial
  step := trivial
  listing _ := trivial

/-- If nothing but the last element has a property, at most one has it. -/
theorem countP_le_one_of_dropLast {α : Type} {p : α → Bool} {l : List α}
    (h : ∀ a ∈ l.dropLast, p a = false) : l.countP p ≤ 1 := by
  obtain rfl | ⟨before, a, rfl⟩ := List.eq_nil_or_concat l
  · simp
  · rw [List.concat_eq_append, List.dropLast_concat] at h
    have hbefore : before.countP p = 0 := by
      rw [List.countP_eq_zero]
      intro b hb
      simp [h b hb]
    rw [List.concat_eq_append, List.countP_append, hbefore, Nat.zero_add]
    exact List.countP_le_length

namespace Console

/-- A line makes at most one request that changes the machine, and it is the last one; nothing
follows a refused request. On a host that answers alike but fails some requests, the line makes the
same requests up to the first refused one. -/
theorem line_changes_once (host : Host σ) (x : σ) (s : Session) (line : String) :
    let c := (execute builtinTable s line).converse host x
    c.requests.countP Request.changesMachine ≤ 1 ∧
    (∀ r ∈ c.requests.dropLast, r.changesMachine = false) ∧
    (∀ y ∈ c.exchanges.dropLast, y.Answered) ∧
    ∀ (τ : Type) (failing : Host τ) (R : σ → τ → Prop) (y : τ),
      host.FailsSome failing R → R x y →
      let c' := (execute builtinTable s line).converse failing y
      c'.requests <+: c.requests ∧ c.CutOff c' := by
  intro c
  have hasks : (execute builtinTable s line).Asks (fun r => r.changesMachine = false)
      fun _ => True :=
    execute_asks Order.permits_looking fun _ _ => trivial
  have hdropLast := hasks.dropLast host x
  have hlooking : ∀ r ∈ c.requests.dropLast, r.changesMachine = false := by
    unfold Conversation.requests
    rw [← List.map_dropLast, List.forall_mem_map]
    exact fun y hy => (hdropLast y hy).2
  refine ⟨countP_le_one_of_dropLast hlooking, hlooking, fun y hy => (hdropLast y hy).1,
    fun τ failing R y hfails hxy => ?_⟩
  have hcut := hasks.cutOff hfails hxy
  exact ⟨hcut.requests_prefix, hcut⟩

/-- A call, stepped over on a host that cannot read memory: of the four requests, three are made. -/
theorem line_cut_off_unreadable :
    let s : Session := { resolve := fun _ => none, codeSize := .bits16 }
    let host : ScriptedHost := { memory := [⟨⟨0, 0⟩, [0xE8, 0x00, 0x10], false⟩] }
    let failures := [("GetMemory", "unreadable")]
    let related (x y : ScriptedHost) : Prop := x.failures = [] ∧ y = { x with failures }
    let c := (execute builtinTable s "p").converse ScriptedHost.answer host
    let c' := (execute builtinTable s "p").converse ScriptedHost.answer { host with failures }
    Host.FailsSome ScriptedHost.answer ScriptedHost.answer related ∧
      related host { host with failures } ∧
      c.requests = [.getState, .globalTable, .readMemory ⟨0, 0⟩ 15, .runTo ⟨0, 3⟩] ∧
      (Request.readMemory ⟨0, 0⟩ 15).changesMachine = false ∧
      c'.requests.length = 3 ∧ c'.requests <+: c.requests ∧ c.CutOff c' := by
  intro s host failures related c c'
  have hfails : Host.FailsSome ScriptedHost.answer ScriptedHost.answer related :=
    ScriptedHost.answer_failsSome failures
  have hrelated : related host { host with failures } := ⟨rfl, rfl⟩
  have hrequests : c.requests =
      [.getState, .globalTable, .readMemory ⟨0, 0⟩ 15, .runTo ⟨0, 3⟩] := by
    decide +kernel
  obtain ⟨-, hlooking, -, hcut⟩ := line_changes_once ScriptedHost.answer host s "p"
  have hread : .readMemory ⟨0, 0⟩ 15 ∈ c.requests.dropLast := by
    rw [hrequests]
    decide
  refine ⟨hfails, hrelated, hrequests, hlooking _ hread, by decide +kernel, ?_⟩
  exact hcut ScriptedHost ScriptedHost.answer related { host with failures } hfails hrelated

end Console

end DebugConsole
