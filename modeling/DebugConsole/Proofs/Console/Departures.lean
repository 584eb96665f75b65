import DebugConsole.Proofs.Console.SteppingOver
import DebugConsole.Proofs.Instruction.Extent

/-!
# Instructions that do not come back

Returns and jumps without a condition do not lead to the instruction behind them. They are stepped
into, unless a repeat prefix stands in front of them (`departures_stepped`): behind one, everything
is run over (`repeated_return_run_over`).

- **Prefixes** (`Prefixes.fetchFrom_append`): what the prefixes in front of an opcode come to.
- **Departures** (`Departs`): the first bytes of returns and jumps, and what is decoded from them
  (`decode?_departs`).
- **Lines** (`StepOver.Asks.eq_stepIn`): code without a target is left by a single step.
-/

namespace DebugConsole.Instruction

/-! ## Prefixes -/

/-- The bytes that may stand in front of an opcode. -/
def legacyPrefixes : List UInt8 :=
  [0x26, 0x2E, 0x36, 0x3E, 0x64, 0x65, 0x66, 0x67, 0xF0, 0xF2, 0xF3]

/-- A repeat prefix is among some bytes. -/
def Repeats (front : List UInt8) : Prop :=
  0xF2 ∈ front ∨ 0xF3 ∈ front

theorem Prefixes.exists_add? (p : Prefixes) {b : UInt8} (h : b ∈ legacyPrefixes) :
    ∃ q, p.add? b = some q ∧
      (q.repeated.isSome = true ↔ p.repeated.isSome = true ∨ 0xF2 = b ∨ 0xF3 = b) := by
  simp only [legacyPrefixes, List.mem_cons, List.not_mem_nil, or_false] at h
  rcases h with rfl | rfl | rfl | rfl | rfl | rfl | rfl | rfl | rfl | rfl | rfl
  all_goals exact ⟨_, rfl, by simp⟩

/-- Prefixes are read in front of whatever follows them; the instruction repeats if one of them
says so. -/
theorem Prefixes.fetchFrom_append (p : Prefixes) {front : List UInt8}
    (h : ∀ b ∈ front, b ∈ legacyPrefixes) :
    ∃ q : Prefixes, (∀ back, fetchFrom p (front ++ back) = fetchFrom q back) ∧
      (q.repeated.isSome = true ↔ p.repeated.isSome = true ∨ Repeats front) := by
  induction front generalizing p with
  | nil => exact ⟨p, fun _ => rfl, by simp [Repeats]⟩
  | cons b front ih =>
    obtain ⟨hb, hfront⟩ := List.forall_mem_cons.mp h
    obtain ⟨next, hadd, hnext⟩ := p.exists_add? hb
    obtain ⟨q, hfetch, hq⟩ := ih next hfront
    refine ⟨q, fun back => ?_, ?_⟩
    · rw [List.cons_append, fetchFrom, hadd]
      exact hfetch back
    · rw [hq, hnext]
      simp only [Repeats, List.mem_cons]
      tauto

/-- An instruction that is cut off somewhere behind its prefixes has all of them. -/
theorem Prefixes.of_fetch_take {front back rest : List UInt8} {k : Nat} {a : Prefixes × UInt8}
    (hfront : ∀ b ∈ front, b ∈ legacyPrefixes)
    (h : Prefixes.fetch ((front ++ back).take k) = some (a, rest)) :
    ∃ (q : Prefixes) (n : Nat), fetchFrom q (back.take (n + 1)) = some (a, rest) ∧
      (q.repeated.isSome = true ↔ Repeats front) := by
  rw [Prefixes.fetch, List.take_append] at h
  obtain ⟨q, hfetch, hq⟩ := fetchFrom_append {} fun b hb => hfront b (List.mem_of_mem_take hb)
  rw [hfetch] at h
  obtain ⟨n, hn⟩ | hzero : (∃ n, k - front.length = n + 1) ∨ k - front.length = 0 := by
    cases k - front.length with
    | zero => exact .inr rfl
    | succ n => exact .inl ⟨n, rfl⟩
  · rw [List.take_of_length_le (by omega)] at hq
    exact ⟨q, n, hn ▸ h, by simpa using hq⟩
  · rw [hzero, List.take_zero] at h
    cases h

/-! ## Departures -/

/-- The opcodes of returns, from procedures and from interrupts. -/
def returns : List UInt8 :=
  [0xC2, 0xC3, 0xCA, 0xCB, 0xCF]

/-- The opcodes of jumps whose target is part of the instruction. -/
def jumps : List UInt8 :=
  [0xE9, 0xEA, 0xEB]

/-- The first bytes of a return or of a jump without a condition. -/
inductive Departs : List UInt8 → Prop where
  | ret {b : UInt8} {rest : List UInt8} (h : b ∈ returns) : Departs (b :: rest)
  | jump {b : UInt8} {rest : List UInt8} (h : b ∈ jumps) : Departs (b :: rest)
  /-- Jumps to where a register or memory says share an opcode with other instructions. -/
  | indirect {m : UInt8} {rest : List UInt8} (h : m.toNat / 8 % 8 = 4 ∨ m.toNat / 8 % 8 = 5) :
    Departs (0xFF :: m :: rest)

/-- The form leads away. -/
def Form.Departs (form : Form) : Prop :=
  form.flow = .ret ∨ form.flow = .jump

variable {size : CodeSize} {p : Prefixes} {form : Form} {front back rest : List UInt8}

/-- The opcode of a departure is no prefix. -/
theorem Prefixes.fetchFrom_departure (q : Prefixes) {b : UInt8}
    (h : b ∈ returns ∨ b ∈ jumps ∨ b = 0xFF) (rest : List UInt8) :
    fetchFrom q (b :: rest) = some ((q, b), rest) := by
  simp only [returns, jumps, List.mem_cons, List.not_mem_nil, or_false] at h
  rcases h with (rfl | rfl | rfl | rfl | rfl) | (rfl | rfl | rfl) | rfl
  all_goals rfl

theorem fetchOpcode_departs {b : UInt8} (h : b ∈ returns ∨ b ∈ jumps) :
    ∃ form : Form, form.Departs ∧ ∀ rest, fetchOpcode b rest = some (.plain form, rest) := by
  simp only [returns, jumps, List.mem_cons, List.not_mem_nil, or_false] at h
  rcases h with hret | hjump
  · rcases hret with rfl | rfl | rfl | rfl | rfl
    all_goals exact ⟨_, .inl rfl, fun _ => rfl⟩
  · rcases hjump with rfl | rfl | rfl
    all_goals exact ⟨_, .inr rfl, fun _ => rfl⟩

/-- The end of an instruction decides whether it is one, not which. -/
theorem finish_eq {inMemory : Bool} {bytes : List UInt8} {form' : Form}
    (h : fetchOperands.finish size p form inMemory bytes = some (form', rest)) : form' = form := by
  simp only [fetchOperands.finish, Fetch.bind_apply, Option.bind_eq_some_iff, Fetch.ofOption,
    Option.map_eq_some_iff] at h
  obtain ⟨-, -, form'', hform, ⟨⟩⟩ := h
  split at hform
  · exact (Option.some.inj hform).symm
  · cases hform

theorem indirectGroup_departs {m : UInt8} (h : m.toNat / 8 % 8 = 4 ∨ m.toNat / 8 % 8 = 5)
    (hform : fetchOperands size p Opcode.indirectGroup (m :: back) = some (form, rest)) :
    form.Departs := by
  simp only [fetchOperands, Opcode.indirectGroup, Fetch.bind_apply, Option.bind_eq_some_iff] at hform
  obtain ⟨⟨modRM, behind⟩, hmodRM, ⟨chosen, _⟩, hchosen, _, -, hfinish⟩ := hform
  cases hmodRM
  obtain rfl := finish_eq hfinish
  simp only [Fetch.ofOption, Option.map_eq_some_iff, ModRM.ofByte] at hchosen
  obtain ⟨found, hfound, ⟨⟩⟩ := hchosen
  rcases h with h | h
  · simp only [h, Option.some.injEq] at hfound
    exact .inr (by rw [← hfound])
  · simp only [h, Option.ite_none_right_eq_some, Option.some.injEq] at hfound
    exact .inr (by rw [← hfound.2])

/-- What is read of a departure leads away, and repeats if its prefixes say so. -/
theorem departs_of_fetch (hfront : ∀ b ∈ front, b ∈ legacyPrefixes) (hback : Departs back) {k : Nat}
    (h : fetch size ((front ++ back).take k) = some ((p, form), rest)) :
    form.Departs ∧ (p.repeated.isSome = true ↔ Repeats front) := by
  simp only [fetch, Fetch.bind_apply, Option.bind_eq_some_iff] at h
  obtain ⟨⟨⟨q, opcode⟩, behind⟩, hprefixes, ⟨operands, _⟩, hopcode, ⟨found, _⟩, hform, ⟨⟩⟩ := h
  obtain ⟨first, n, hfirst, hrepeats⟩ := Prefixes.of_fetch_take hfront hprefixes
  have hplain {b : UInt8} {more : List UInt8} (hb : b ∈ returns ∨ b ∈ jumps)
      (hfirst : Prefixes.fetchFrom first (b :: more) = some ((q, opcode), behind)) :
      found.Departs ∧ (q.repeated.isSome = true ↔ Repeats front) := by
    rw [Prefixes.fetchFrom_departure first (hb.imp_right .inl)] at hfirst
    cases hfirst
    obtain ⟨departing, hdeparts, hopcode'⟩ := fetchOpcode_departs hb
    rw [hopcode'] at hopcode
    cases hopcode
    obtain rfl := finish_eq hform
    exact ⟨hdeparts, hrepeats⟩
  cases hback with
  | ret hb => exact hplain (.inl hb) hfirst
  | jump hb => exact hplain (.inr hb) hfirst
  | indirect hm =>
    rw [List.take_succ_cons, Prefixes.fetchFrom_departure first (.inr (.inr rfl))] at hfirst
    cases hfirst
    cases hopcode
    cases n with
    | zero => cases hform
    | succ n => exact ⟨indirectGroup_departs hm hform, hrepeats⟩

/-- A departure comes back if it repeats, and only then. -/
theorem decode?_departs {i : Instruction} (hfront : ∀ b ∈ front, b ∈ legacyPrefixes)
    (hback : Departs back) (h : decode? size (front ++ back) = some i) :
    i.comesBack = true ↔ Repeats front := by
  simp only [decode?, Option.map_eq_some_iff] at h
  obtain ⟨⟨⟨p, form⟩, rest⟩, hfetch, rfl⟩ := h
  obtain ⟨hdeparts, hrepeats⟩ := departs_of_fetch hfront hback hfetch
  rw [← hrepeats]
  rcases hdeparts with hflow | hflow
  · simp [comesBack, hflow]
  · simp [comesBack, hflow]

end DebugConsole.Instruction

namespace DebugConsole

open Instruction

variable {σ : Type}

/-! ## Lines -/

/-- Where the code that was read gives no target, one instruction is executed. -/
theorem StepOver.Asks.eq_stepIn {fallback : CodeSize} {before : List Exchange} {r : Request}
    {a : Address} {code : List UInt8} (h : Asks fallback before r)
    (hcode : ⟨.readMemory a 15, .ok code⟩ ∈ before)
    (hnone : ∀ size a, stepOverTarget size a code = none) : r = .stepIn := by
  have hlearned {v : Registers} {slots : List Descriptor} {before : List Exchange}
      (h : Learned v slots before) : ⟨.readMemory a 15, .ok code⟩ ∉ before := by
    cases h <;> simp
  cases h with
  | state | localTable | globalTable => simp at hcode
  | code hbefore => exact absurd hcode (hlearned hbefore)
  | run hbefore hsize htarget =>
    rw [List.mem_append, List.mem_singleton] at hcode
    obtain ⟨⟩ := hcode.resolve_left (hlearned hbefore)
    rw [hnone] at htarget
    cases htarget
  | step => rfl

/-- A line that steps over ends with a single step once it has read code that gives no target. -/
theorem StepOver.Course.getLast?_requests {s : Session} {exchanges : List Exchange} {o : Outcome}
    {a : Address} {code : List UInt8} (h : Course s exchanges o)
    (hcode : ⟨.readMemory a 15, .ok code⟩ ∈ exchanges)
    (hnone : ∀ size a, stepOverTarget size a code = none) :
    exchanges.getLast?.map (·.request) = some .stepIn := by
  cases h with
  | refused hasks =>
    have hbefore := (List.mem_append.mp hcode).resolve_right fun hlast => by
      cases List.mem_singleton.mp hlast
    simp [hasks.eq_stepIn hbefore hnone]
  | ran hasks =>
    have hbefore := (List.mem_append.mp hcode).resolve_right (by simp)
    cases hasks.eq_stepIn hbefore hnone
  | stepped hasks => simp

namespace Console

theorem execute_stepOver (s : Session) {line : String} (hline : calledName line = "StepOver") :
    execute builtinTable s line = Order.stepOver.dialogue s := by
  have hreading : reading s line = .order .stepOver :=
    reading_of_calledName hline (by decide) fun _ => rfl
  rw [execute_eq, hreading]
  rfl

/-- A return or a jump without a condition is run over exactly if a repeat prefix is in front of it,
wherever it lies. Without one, a line that steps over and has read it ends with a single step. -/
theorem departures_stepped {front back : List UInt8} (hfront : ∀ b ∈ front, b ∈ legacyPrefixes)
    (hback : Departs back) :
    (∀ size a, (∃ t, stepOverTarget size a (front ++ back) = some t) ↔
      (∃ i, decode? size (front ++ back) = some i) ∧ Repeats front) ∧
    (¬ Repeats front → (∀ size a, stepOverTarget size a (front ++ back) = none) ∧
      ∀ (σ : Type) (host : Host σ) (x : σ) (s : Session) (line : String),
        calledName line = "StepOver" →
        let c := (execute builtinTable s line).converse host x
        ∀ a, ⟨.readMemory a 15, .ok (front ++ back)⟩ ∈ c.exchanges →
          c.exchanges.getLast?.map (·.request) = some .stepIn) := by
  have hiff (size : CodeSize) (a : Address) :
      (∃ t, stepOverTarget size a (front ++ back) = some t) ↔
        (∃ i, decode? size (front ++ back) = some i) ∧ Repeats front := by
    unfold stepOverTarget
    cases hdecode : decode? size (front ++ back) with
    | none => simp
    | some i => simp [← decode?_departs hfront hback hdecode]
  refine ⟨hiff, fun hplain => ?_⟩
  have hnone (size : CodeSize) (a : Address) : stepOverTarget size a (front ++ back) = none := by
    refine Option.eq_none_iff_forall_ne_some.mpr fun t htarget => hplain ?_
    exact ((hiff size a).mp ⟨t, htarget⟩).2
  refine ⟨hnone, fun σ host x s line hline => ?_⟩
  intro c a hcode
  have hcourse : StepOver.Course s c.exchanges c.value := by
    have h := StepOver.completes_stepOver s host x
    rwa [← execute_stepOver s hline] at h
  exact hcourse.getLast?_requests hcode hnone

/-- A host that knows nothing but its state and the code there. -/
def hostOfCode (v : Registers) (code : List UInt8) : Host Unit := fun r x =>
  match r with
  | .getState | .stepIn => (.ok v, x)
  | .globalTable => (.ok [], x)
  | .readMemory _ _ => (.ok code, x)
  | _ => (.error ⟨"unknown"⟩, x)

/-- A far return behind a segment override and an operand size. -/
theorem departures_stepped_far :
    let front : List UInt8 := [0x2E, 0x66]
    let back : List UInt8 := [0xCA, 0x04, 0x00]
    let s : Session := { resolve := fun _ => none, codeSize := .bits16 }
    let host := hostOfCode { cs := 0x1000, eip := 0x100 } (front ++ back)
    let c := (execute builtinTable s "p").converse host ()
    (∀ b ∈ front, b ∈ legacyPrefixes) ∧ Departs back ∧ ¬ Repeats front ∧
      calledName "p" = "StepOver" ∧
      ⟨.readMemory ⟨0x1000, 0x100⟩ 15, .ok (front ++ back)⟩ ∈ c.exchanges ∧
      c.exchanges.getLast?.map (·.request) = some .stepIn := by
  intro front back s host c
  have hfront : ∀ b ∈ front, b ∈ legacyPrefixes := by simp [front, legacyPrefixes]
  have hback : Departs back := .ret (by decide)
  have hplain : ¬ Repeats front := by simp [Repeats, front]
  have hline : calledName "p" = "StepOver" := by decide +kernel
  have hcode : ⟨.readMemory ⟨0x1000, 0x100⟩ 15, .ok (front ++ back)⟩ ∈ c.exchanges := by
    simp only [c, execute_stepOver s hline]
    exact .tail _ (.tail _ (.head _))
  obtain ⟨-, hstepped⟩ := departures_stepped hfront hback
  obtain ⟨-, hlines⟩ := hstepped hplain
  exact ⟨hfront, hback, hplain, hline, hcode, hlines Unit host () s "p" hline _ hcode⟩

/-- A return behind a repeat prefix leads to its caller, and is run over all the same. -/
theorem repeated_return_run_over :
    let front : List UInt8 := [0xF3]
    let back : List UInt8 := [0xC3]
    (∀ b ∈ front, b ∈ legacyPrefixes) ∧ Departs back ∧
      stepOverTarget .bits32 ⟨0x1000, 0x100⟩ (front ++ back) = some ⟨0x1000, 0x102⟩ := by
  exact ⟨by simp [legacyPrefixes], .ret (by decide), by decide⟩

end Console

end DebugConsole
