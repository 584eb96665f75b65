import Mathlib.Data.Nat.Bitwise
import DebugConsole.Host.Scripted
import DebugConsole.Proofs.Command.Failures
import DebugConsole.Proofs.Console.Snapshots

/-!
# Stepping over

What the host is asked when a line steps over an instruction, and what comes of it
(`stepOver_course`).

- **Selectors**: the table and the slot that a selector names, by its bits, and the size of the code
  that the slot gives (`CodeSize.Given`).
- **The requests** (`StepOver.Asks`): each follows from the answers to those before it.
- **The course** (`StepOver.Course`): the requests up to the first one that is refused, or up to the
  one that runs or steps, with the outcome.
- **Stale snapshots** (`Dialogue.Alike`): nothing that the session holds plays a part but its code
  size.
-/

namespace DebugConsole

variable {σ : Type}

/-! ## Selectors -/

theorem selectsLocal_eq (selector : UInt16) :
    selectsLocal selector = selector.toNat.testBit 2 := by
  have hand : (selector &&& 4).toNat = (selector.toNat.testBit 2).toNat * 4 :=
    (UInt16.toNat_and selector 4).trans (Nat.and_two_pow selector.toNat 2)
  unfold selectsLocal
  cases hbit : selector.toNat.testBit 2 with
  | false =>
    have hzero : selector &&& 4 = 0 := UInt16.toNat_inj.mp (by simpa [hbit] using hand)
    simp [hzero]
  | true =>
    have hset : selector &&& 4 ≠ 0 := fun h => by simp [hbit, h] at hand
    simp [hset]

theorem slotOf?_eq (slots : List Descriptor) (selector : UInt16) :
    slotOf? slots selector = slots[selector.toNat / 8]? := by
  simp [slotOf?, UInt16.toNat_shiftRight, Nat.shiftRight_eq_div_pow]

/-- The size of the code that a selector names in a table: that of the segment in its slot if the
segment holds code, and else the fallback. -/
inductive CodeSize.Given (slots : List Descriptor) (selector : UInt16) (fallback : CodeSize) :
    CodeSize → Prop where
  | big {seg : Segment} (hslot : slots[selector.toNat / 8]? = some (.segment seg))
      (hcode : seg.kind.isCode = true) (hbig : seg.big = true) :
      Given slots selector fallback .bits32
  | small {seg : Segment} (hslot : slots[selector.toNat / 8]? = some (.segment seg))
      (hcode : seg.kind.isCode = true) (hbig : seg.big = false) :
      Given slots selector fallback .bits16
  | fallback (hnone : ∀ seg : Segment, slots[selector.toNat / 8]? = some (.segment seg) →
      seg.kind.isCode = false) : Given slots selector fallback fallback

theorem CodeSize.given_iff {slots : List Descriptor} {selector : UInt16}
    {fallback size : CodeSize} :
    Given slots selector fallback size ↔ size = ofSelector slots selector fallback := by
  unfold ofSelector
  rw [slotOf?_eq]
  constructor
  · intro h
    cases h with
    | big hslot hcode hbig => simp [hslot, ofSlot, hcode, hbig, ofBig]
    | small hslot hcode hbig => simp [hslot, ofSlot, hcode, hbig, ofBig]
    | fallback hnone =>
      rcases hslot : slots[selector.toNat / 8]? with _ | seg | gate
      · rfl
      · simp [ofSlot, hnone seg hslot]
      · rfl
  · rintro rfl
    rcases hslot : slots[selector.toNat / 8]? with _ | seg | gate
    · exact .fallback (by simp [hslot])
    · cases hcode : seg.kind.isCode with
      | false =>
        simp only [Option.bind_some, ofSlot, hcode]
        refine .fallback fun seg' h => ?_
        cases hslot.symm.trans h
        exact hcode
      | true =>
        simp only [Option.bind_some, ofSlot, hcode, if_true, Option.getD_some]
        cases hbig : seg.big with
        | true => exact .big hslot hcode hbig
        | false => exact .small hslot hcode hbig
    · exact .fallback (by simp [hslot])

/-! ## The requests -/

namespace StepOver

/-- The first two answers: a snapshot, then the descriptor table that its code selector names. -/
inductive Learned (v : Registers) (slots : List Descriptor) : List Exchange → Prop where
  | localTable (h : v.cs.toNat.testBit 2 = true) :
      Learned v slots [⟨.getState, .ok v⟩, ⟨.localTable, .ok slots⟩]
  | globalTable (h : v.cs.toNat.testBit 2 = false) :
      Learned v slots [⟨.getState, .ok v⟩, ⟨.globalTable, .ok slots⟩]

/-- The next request of stepping over, after the exchanges `before`. -/
inductive Asks (fallback : CodeSize) : List Exchange → Request → Prop where
  | state : Asks fallback [] .getState
  | localTable {v : Registers} (h : v.cs.toNat.testBit 2 = true) :
      Asks fallback [⟨.getState, .ok v⟩] .localTable
  | globalTable {v : Registers} (h : v.cs.toNat.testBit 2 = false) :
      Asks fallback [⟨.getState, .ok v⟩] .globalTable
  | code {v : Registers} {slots : List Descriptor} {before : List Exchange}
      (h : Learned v slots before) : Asks fallback before (.readMemory ⟨v.cs, v.eip⟩ 15)
  | run {v : Registers} {slots : List Descriptor} {before : List Exchange} {code : List UInt8}
      {size : CodeSize} {target : Address} (h : Learned v slots before)
      (hsize : CodeSize.Given slots v.cs fallback size)
      (htarget : stepOverTarget size ⟨v.cs, v.eip⟩ code = some target) :
      Asks fallback (before ++ [⟨.readMemory ⟨v.cs, v.eip⟩ 15, .ok code⟩]) (.runTo target)
  | step {v : Registers} {slots : List Descriptor} {before : List Exchange} {code : List UInt8}
      {size : CodeSize} (h : Learned v slots before)
      (hsize : CodeSize.Given slots v.cs fallback size)
      (htarget : stepOverTarget size ⟨v.cs, v.eip⟩ code = none) :
      Asks fallback (before ++ [⟨.readMemory ⟨v.cs, v.eip⟩ 15, .ok code⟩]) .stepIn

/-- The exchanges of stepping over, with what the line comes to. -/
inductive Course (s : Session) : List Exchange → Outcome → Prop where
  | refused {before : List Exchange} {r : Request} {e : HostFailure}
      (h : Asks s.codeSize before r) :
      Course s (before ++ [⟨r, .error e⟩]) ⟨.continue, s, [.error ("Host error: " ++ e.message)]⟩
  | ran {before : List Exchange} {target : Address} (h : Asks s.codeSize before (.runTo target)) :
      Course s (before ++ [⟨.runTo target, .ok ()⟩])
        ⟨.continue, s, [.info ("Running to " ++ target.text)]⟩
  | stepped {before : List Exchange} {v : Registers} (h : Asks s.codeSize before .stepIn) :
      Course s (before ++ [⟨.stepIn, .ok v⟩])
        ⟨.continue, s.update v, (Listing.registers v).map .info⟩

theorem Learned.answered {v : Registers} {slots : List Descriptor} {before : List Exchange}
    (h : Learned v slots before) : ∀ y ∈ before, y.Answered := by
  cases h <;> simp [Exchange.Answered]

theorem Learned.length_eq {v : Registers} {slots : List Descriptor} {before : List Exchange}
    (h : Learned v slots before) : before.length = 2 := by
  cases h <;> rfl

variable {fallback : CodeSize} {before : List Exchange}

/-- Nothing is asked after a refused request. -/
theorem Asks.answered {r : Request} (h : Asks fallback before r) : ∀ y ∈ before, y.Answered := by
  cases h with
  | state => simp
  | localTable | globalTable => simp [Exchange.Answered]
  | code hlearned => exact hlearned.answered
  | run hlearned | step hlearned =>
    rw [List.forall_mem_append]
    exact ⟨hlearned.answered, by simp [Exchange.Answered]⟩

/-- The request that ends the stepping is the fourth. -/
theorem Asks.length_eq {r : Request} (h : Asks fallback before r)
    (hlast : (∃ target, r = .runTo target) ∨ r = .stepIn) : before.length = 3 := by
  cases h with
  | run hlearned | step hlearned => simp [hlearned.length_eq]
  | _ => simp at hlast

namespace Course

variable {s : Session} {exchanges : List Exchange} {o : Outcome}

theorem length_eq (h : Course s exchanges o) (hanswered : ∀ y ∈ exchanges, y.Answered) :
    exchanges.length = 4 := by
  cases h with
  | refused =>
    obtain ⟨reply, hreply⟩ := hanswered _ (List.mem_append_right _ (List.mem_singleton_self _))
    cases hreply
  | ran hasks => simp [hasks.length_eq (.inl ⟨_, rfl⟩)]
  | stepped hasks => simp [hasks.length_eq (.inr rfl)]

theorem of_not_answered (h : Course s exchanges o) (hnot : ¬ ∀ y ∈ exchanges, y.Answered) :
    (∃ e, Exchange.BrokenOff exchanges e) ∧ o.session = s := by
  cases h with
  | @refused before r e hasks => exact ⟨⟨e, before, r, rfl, hasks.answered⟩, rfl⟩
  | ran hasks | stepped hasks =>
    refine absurd (List.forall_mem_append.mpr ⟨hasks.answered, ?_⟩) hnot
    simp [Exchange.Answered]

end Course

/-! ## The course -/

/-- Behind the exchanges `before`, a dialogue goes on to the end of a course, on every host. -/
def Completes (σ : Type) (s : Session) (before : List Exchange) (d : Dialogue Outcome) : Prop :=
  ∀ (host : Host σ) (x : σ), let c := d.converse host x
    Course s (before ++ c.exchanges) c.value

variable {s : Session}

theorem completes_done {o : Outcome} (h : Course s before o) :
    Completes σ s before (.done o) := by
  intro host x
  simpa using h

/-- One request further on. -/
theorem completes_orFail {r : Request} {next : r.Reply → Dialogue Outcome}
    (hasks : Asks s.codeSize before r)
    (hnext : ∀ reply, Completes σ s (before ++ [⟨r, .ok reply⟩]) (next reply)) :
    Completes σ s before (.orFail s r next) := by
  intro host x
  rcases hhost : host r x with ⟨e | reply, x'⟩
  · rw [Dialogue.converse_orFail_error hhost]
    exact .refused hasks
  · rw [Dialogue.converse_orFail_ok hhost]
    simpa using hnext reply host x'

theorem completes_stepOverFrom {v : Registers} {slots : List Descriptor}
    (hlearned : Learned v slots before) :
    Completes σ s before (Order.stepOverFrom s v slots) := by
  refine completes_orFail (.code hlearned) fun code => ?_
  have hsize : CodeSize.Given slots v.cs s.codeSize (CodeSize.ofSelector slots v.cs s.codeSize) :=
    CodeSize.given_iff.mpr rfl
  cases htarget : stepOverTarget (CodeSize.ofSelector slots v.cs s.codeSize) v.ip code with
  | some target =>
    have hasks := Asks.run hlearned hsize htarget
    exact completes_orFail hasks fun _ => completes_done (.ran hasks)
  | none =>
    have hasks := Asks.step hlearned hsize htarget
    exact completes_orFail hasks fun _ => completes_done (.stepped hasks)

theorem completes_stepOver (s : Session) : Completes σ s [] (Order.stepOver.dialogue s) := by
  refine completes_orFail .state fun v => ?_
  rw [selectsLocal_eq]
  cases hbit : v.cs.toNat.testBit 2 with
  | true =>
    exact completes_orFail (.localTable hbit) fun slots => completes_stepOverFrom (.localTable hbit)
  | false =>
    exact completes_orFail (.globalTable hbit) fun slots =>
      completes_stepOverFrom (.globalTable hbit)

end StepOver

/-! ## Stale snapshots -/

/-- Two dialogues that ask alike and write alike, whatever the host says. -/
inductive Dialogue.Alike : Dialogue Outcome → Dialogue Outcome → Prop where
  | done {o o' : Outcome} (hproceed : o.proceed = o'.proceed) (houtput : o.output = o'.output) :
      Alike (.done o) (.done o')
  | ask {r : Request} {next next' : Except HostFailure r.Reply → Dialogue Outcome}
      (h : ∀ reply, Alike (next reply) (next' reply)) : Alike (.ask r next) (.ask r next')

/-- Two conversations with the same exchanges and the same output; they leave the same host. -/
structure Conversation.Alike (c c' : Conversation σ Outcome) : Prop where
  exchanges : c.exchanges = c'.exchanges
  proceed : c.value.proceed = c'.value.proceed
  output : c.value.output = c'.value.output
  host : c.host = c'.host

theorem Dialogue.Alike.converse {d d' : Dialogue Outcome} (h : d.Alike d') (host : Host σ) (x : σ) :
    (d.converse host x).Alike (d'.converse host x) := by
  induction h generalizing x with
  | done hproceed houtput => exact ⟨rfl, hproceed, houtput, rfl⟩
  | @ask r next next' _ ih =>
    obtain ⟨hexchanges, hproceed, houtput, hhost⟩ := ih (host r x).1 (host r x).2
    exact ⟨List.cons_eq_cons.mpr ⟨rfl, hexchanges⟩, hproceed, houtput, hhost⟩

theorem Dialogue.orFail_alike {s s' : Session} {r : Request}
    {next next' : r.Reply → Dialogue Outcome} (h : ∀ reply, (next reply).Alike (next' reply)) :
    (Dialogue.orFail s r next).Alike (.orFail s' r next') := by
  refine .ask fun reply => ?_
  cases reply with
  | ok reply => exact h reply
  | error e => exact .done rfl rfl

namespace Order

variable {s s' : Session}

theorem single_alike (s s' : Session) (r : Request) : (single s r).Alike (single s' r) :=
  Dialogue.orFail_alike fun _ => .done rfl rfl

theorem stepOverFrom_alike (hsize : s.codeSize = s'.codeSize) (v : Registers)
    (slots : List Descriptor) : (stepOverFrom s v slots).Alike (stepOverFrom s' v slots) := by
  refine Dialogue.orFail_alike fun code => ?_
  rw [hsize]
  cases stepOverTarget (CodeSize.ofSelector slots v.cs s'.codeSize) v.ip code with
  | some target => exact Dialogue.orFail_alike fun _ => .done rfl rfl
  | none => exact single_alike s s' .stepIn

theorem stepOver_alike (hsize : s.codeSize = s'.codeSize) :
    (stepOver.dialogue s).Alike (stepOver.dialogue s') := by
  refine Dialogue.orFail_alike fun v => ?_
  cases selectsLocal v.cs with
  | true => exact Dialogue.orFail_alike (stepOverFrom_alike hsize v)
  | false => exact Dialogue.orFail_alike (stepOverFrom_alike hsize v)

end Order

/-! ## Lines -/

namespace Console

/-- A line that steps over an instruction follows its course: four requests if all are answered; a
refused one is the last and leaves the session alone. Sessions of the same code size ask and write
the same, whatever snapshots they hold. -/
theorem stepOver_course (host : Host σ) (x : σ) (s : Session) {line : String}
    (hline : calledName line = "StepOver") :
    let c := (execute builtinTable s line).converse host x
    StepOver.Course s c.exchanges c.value ∧
    ((∀ y ∈ c.exchanges, y.Answered) → c.exchanges.length = 4) ∧
    ((¬ ∀ y ∈ c.exchanges, y.Answered) →
      (∃ e, Exchange.BrokenOff c.exchanges e) ∧ c.value.session = s) ∧
    ∀ s' : Session, s.codeSize = s'.codeSize →
      c.Alike ((execute builtinTable s' line).converse host x) := by
  intro c
  have hdialogue (s : Session) : execute builtinTable s line = Order.stepOver.dialogue s := by
    have hreading : reading s line = .order .stepOver :=
      reading_of_calledName hline (by decide) fun _ => rfl
    rw [execute_eq, hreading]
    rfl
  have hcourse : StepOver.Course s c.exchanges c.value := by
    have h := StepOver.completes_stepOver s host x
    rw [← hdialogue] at h
    exact h
  refine ⟨hcourse, hcourse.length_eq, hcourse.of_not_answered, fun s' hsize => ?_⟩
  rw [hdialogue s']
  show ((execute builtinTable s line).converse host x).Alike _
  rw [hdialogue s]
  exact (Order.stepOver_alike hsize).converse host x

/-- A call in a 32-bit code segment, stepped over from a session that takes code for 16-bit. -/
theorem stepOver_past_call :
    let s : Session := { resolve := fun _ => none, codeSize := .bits16 }
    let host : ScriptedHost :=
      { registers := { cs := 8, eip := 0x1000 }, globalTable := [{}, { kind := 0x1A, big := true }],
        memory := [⟨⟨8, 0x1000⟩, [0xE8, 0x00, 0x10, 0x00, 0x00], false⟩] }
    let c := (execute builtinTable s "p").converse ScriptedHost.answer host
    calledName "p" = "StepOver" ∧ c.exchanges.length = 4 ∧
      c.value.output = [.info "Running to 0008:00001005"] := by
  intro s host c
  have hline : calledName "p" = "StepOver" := by decide +kernel
  obtain ⟨-, hfour, -⟩ := stepOver_course ScriptedHost.answer host s hline
  have hanswered : c.exchanges.all (·.reply.isOk) = true := by decide +kernel
  refine ⟨hline, hfour fun y hy => ?_, by decide +kernel⟩
  have hok := List.all_eq_true.mp hanswered y hy
  cases hreply : y.reply with
  | ok reply => exact ⟨reply, hreply⟩
  | error e => simp [hreply, Except.isOk, Except.toBool] at hok

end Console

end DebugConsole
