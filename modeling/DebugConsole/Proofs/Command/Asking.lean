import DebugConsole.Proofs.Command.Failures

/-!
# What a line asks

The requests of a dialogue, whatever the host says to them.

- **Dialogues** (`Dialogue.Asks`): a refused request is the last one. The requests that others may
  follow satisfy one predicate, those that end the dialogue another one.
- **Orders** (`Order.asks`): an order makes the request that its operands give, or one of a few
  requests of its own (`Order.Permits`).
- **Lines** (`Console.execute_asks`): a line asks what the order it gives asks.
-/

namespace DebugConsole

variable {σ : Type} {P Q : Request → Prop}

/-! ## Dialogues -/

/-- A dialogue that ends with its first refused request. A request that others may follow satisfies
`P`, and one that ends the dialogue, whatever the answer, satisfies `Q`. -/
inductive Dialogue.Asks (P Q : Request → Prop) : Dialogue Outcome → Prop where
  | done (o : Outcome) : Asks P Q (.done o)
  | last {s : Session} {r : Request} (f : r.Reply → Outcome) (h : Q r) :
      Asks P Q (.orFail s r fun reply => .done (f reply))
  | more {s : Session} {r : Request} {next : r.Reply → Dialogue Outcome} (h : P r)
      (hnext : ∀ reply, Asks P Q (next reply)) : Asks P Q (.orFail s r next)

namespace Dialogue.Asks

variable {d : Dialogue Outcome}

/-- Every request with another one behind it was answered, and satisfies the first predicate. -/
theorem dropLast (h : d.Asks P Q) (host : Host σ) (x : σ) :
    ∀ y ∈ (d.converse host x).exchanges.dropLast, y.Answered ∧ P y.request := by
  induction h generalizing x with
  | done o => simp
  | @last s r f h =>
    intro y hy
    rcases hhost : host r x with ⟨e | reply, x'⟩
    · rw [converse_orFail_error hhost] at hy
      simp at hy
    · rw [converse_orFail_ok hhost] at hy
      simp at hy
  | @more s r next h hnext ih =>
    intro y hy
    rcases hhost : host r x with ⟨e | reply, x'⟩
    · rw [converse_orFail_error hhost] at hy
      simp at hy
    · rw [converse_orFail_ok hhost] at hy
      simp only at hy
      -- The first request counts only if there is a second one.
      cases hrest : ((next reply).converse host x').exchanges with
      | nil =>
        rw [hrest] at hy
        simp at hy
      | cons z rest =>
        rw [hrest, List.dropLast_cons_cons, List.mem_cons] at hy
        obtain rfl | hy := hy
        · exact ⟨⟨reply, rfl⟩, h⟩
        · refine ih reply x' y ?_
          rw [hrest]
          exact hy

/-- Every request satisfies one of the two predicates. -/
theorem requests (h : d.Asks P Q) (host : Host σ) (x : σ) :
    ∀ r ∈ (d.converse host x).requests, P r ∨ Q r := by
  induction h generalizing x with
  | done o => simp [Conversation.requests]
  | @last s r f h =>
    rcases hhost : host r x with ⟨e | reply, x'⟩
    · rw [converse_orFail_error hhost]
      simp [Conversation.requests, h]
    · rw [converse_orFail_ok hhost]
      simp [Conversation.requests, h]
  | @more s r next h hnext ih =>
    rcases hhost : host r x with ⟨e | reply, x'⟩
    · rw [converse_orFail_error hhost]
      simp [Conversation.requests, h]
    · rw [converse_orFail_ok hhost]
      have hrest := ih reply x'
      simp only [Conversation.requests, List.map_cons, List.forall_mem_cons] at hrest ⊢
      exact ⟨.inl h, hrest⟩

end Dialogue.Asks

/-! ## Orders -/

namespace Order

/-- The requests that orders make by themselves are permitted: in front of others by `P`, and at the
end by `Q`. -/
structure Permits (P Q : Request → Prop) : Prop where
  state : P .getState
  localTable : P .localTable
  globalTable : P .globalTable
  code (a : Address) : P (.readMemory a (Int32.ofNat Instruction.maxLength))
  run (a : Address) : Q (.runTo a)
  step : Q .stepIn
  listing (a : Address) : Q (.disassemble a Builtin.defaultInstructions)

theorem single_asks {s : Session} {r : Request} (h : Q r) : (single s r).Asks P Q :=
  .last _ h

theorem stepOverFrom_asks (hpermits : Permits P Q) (s : Session) (v : Registers)
    (slots : List Descriptor) : (stepOverFrom s v slots).Asks P Q := by
  refine .more (hpermits.code v.ip) fun code => ?_
  split
  · exact .last _ (hpermits.run _)
  · exact single_asks hpermits.step

theorem asks (hpermits : Permits P Q) {o : Order} (hrequest : ∀ r, o = .request r → Q r)
    (s : Session) : (o.dialogue s).Asks P Q := by
  cases o with
  | write output => exact .done _
  | leave => exact .done _
  | request r => exact single_asks (hrequest r rfl)
  | disassembleHere =>
    cases hsynced : s.synced with
    | true =>
      rw [dialogue_disassembleHere hsynced]
      exact single_asks (hpermits.listing _)
    | false =>
      rw [dialogue_disassembleHere_first hsynced]
      exact .more hpermits.state fun v => single_asks (hpermits.listing _)
  | stepOver =>
    refine .more hpermits.state fun v => ?_
    split
    · exact .more hpermits.localTable (stepOverFrom_asks hpermits s v)
    · exact .more hpermits.globalTable (stepOverFrom_asks hpermits s v)

end Order

/-! ## Lines -/

namespace Console

theorem execute_asks (hpermits : Order.Permits P Q) {s : Session} {line : String}
    (hrequest : ∀ r, reading s line = .order (.request r) → Q r) :
    (execute builtinTable s line).Asks P Q := by
  rw [execute_eq]
  cases hread : reading s line with
  | nothing => exact .done _
  | unknown name => exact .done _
  | refused e => exact .done _
  | order o =>
    refine Order.asks hpermits (fun r ho => ?_) s
    subst ho
    exact hrequest r hread

end Console

end DebugConsole
