import Mathlib.Algebra.Group.Nat.Defs
import DebugConsole.Instruction.StepOver

/-!
# The extent of an instruction

An instruction is read from the front, and no byte behind it plays a part (`stepOverTarget_exact`).

- **Reading** (`Fetch.Takes`, `Fetch.Sequential`): a read takes some bytes off the front, whatever
  follows them, and fails on fewer. Reads in sequence do so as well (`Sequential.bind`).
- **The parts of an instruction**: each of them is read that way (`fetch_sequential`).
- **Decoding** (`decode?_extent`): the bytes of an instruction decide its length, and at most fifteen
  bytes are looked at.
- **Stepping over** (`stepOverTarget_eq_some_iff`): the target is as far on as the instruction is long.
-/

namespace DebugConsole.Instruction

variable {α β : Type}

/-! ## Reading -/

namespace Fetch

/-- The read takes exactly these bytes: it has its value whatever follows them, and it fails where
they are cut short. -/
structure Takes (m : Fetch α) (used : List UInt8) (a : α) : Prop where
  whole : ∀ rest, m (used ++ rest) = some (a, rest)
  short : ∀ n < used.length, m (used.take n) = none

/-- Wherever the read has a value, it takes the bytes that it leaves out of its rest. -/
def Sequential (m : Fetch α) : Prop :=
  ∀ bytes a rest, m bytes = some (a, rest) → ∃ used, bytes = used ++ rest ∧ m.Takes used a

theorem bind_apply (m : Fetch α) (f : α → Fetch β) (bytes : List UInt8) :
    (m >>= f) bytes = (m bytes).bind fun r => f r.1 r.2 :=
  rfl

/-- One read behind another takes the bytes of both. -/
theorem Takes.bind {m : Fetch α} {f : α → Fetch β} {front back : List UInt8} {a : α} {b : β}
    (hm : m.Takes front a) (hf : (f a).Takes back b) : (m >>= f).Takes (front ++ back) b where
  whole rest := by
    rw [bind_apply, List.append_assoc, hm.whole, Option.bind_some, hf.whole]
  short n hn := by
    rw [bind_apply, List.take_append]
    by_cases hfront : n < front.length
    · have hback : back.take (n - front.length) = [] := by
        rw [Nat.sub_eq_zero_of_le (Nat.le_of_lt hfront), List.take_zero]
      rw [hback, List.append_nil, hm.short n hfront, Option.bind_none]
    · have hlen : n - front.length < back.length := by
        rw [List.length_append] at hn
        omega
      rw [List.take_of_length_le (by omega), hm.whole, Option.bind_some, hf.short _ hlen]

/-- What needs no bytes takes none. -/
theorem Takes.nil {m : Fetch α} {a : α} (h : ∀ rest, m rest = some (a, rest)) : m.Takes [] a where
  whole := h
  short n hn := absurd hn n.not_lt_zero

theorem Takes.one {m : Fetch α} {b : UInt8} {a : α} (h : ∀ rest, m (b :: rest) = some (a, rest))
    (hnil : m [] = none) : m.Takes [b] a where
  whole := h
  short n hn := by
    obtain rfl : n = 0 := Nat.lt_one_iff.mp hn
    exact hnil

namespace Sequential

theorem bind {m : Fetch α} {f : α → Fetch β} (hm : m.Sequential) (hf : ∀ a, (f a).Sequential) :
    (m >>= f).Sequential := by
  intro bytes b rest h
  rw [bind_apply, Option.bind_eq_some_iff] at h
  obtain ⟨⟨a, mid⟩, hfirst, hsecond⟩ := h
  obtain ⟨front, rfl, hfront⟩ := hm bytes a mid hfirst
  obtain ⟨back, rfl, hback⟩ := hf a mid b rest hsecond
  exact ⟨front ++ back, (List.append_assoc ..).symm, hfront.bind hback⟩

theorem pure (a : α) : (Pure.pure a : Fetch α).Sequential := by
  intro bytes a' rest h
  cases h
  exact ⟨[], rfl, .nil fun _ => rfl⟩

theorem ofOption (value? : Option α) : (Fetch.ofOption value?).Sequential := by
  intro bytes a rest h
  cases value? with
  | none => cases h
  | some value =>
    cases h
    exact ⟨[], rfl, .nil fun _ => rfl⟩

theorem byte : Fetch.byte.Sequential := by
  intro bytes b rest h
  cases bytes with
  | nil => cases h
  | cons b' rest' =>
    cases h
    exact ⟨[b], rfl, .one (fun _ => rfl) rfl⟩

theorem skip (n : Nat) : (Fetch.skip n).Sequential := by
  intro bytes a rest h
  simp only [Fetch.skip, Option.ite_none_right_eq_some, Option.some.injEq, Prod.mk.injEq] at h
  obtain ⟨hle, -, rfl⟩ := h
  have htaken : (bytes.take n).length = n := List.length_take_of_le hle
  refine ⟨bytes.take n, (List.take_append_drop ..).symm, ⟨fun rest => ?_, fun k hk => ?_⟩⟩
  · simp [Fetch.skip, htaken]
  · have hless : ¬ n ≤ ((bytes.take n).take k).length := by
      rw [List.length_take]
      omega
    exact if_neg hless

end Sequential

end Fetch

/-! ## The parts of an instruction -/

open Fetch (Sequential)

theorem Prefixes.fetchFrom_sequential (p : Prefixes) : Sequential (fetchFrom p) := by
  intro bytes a rest h
  induction bytes generalizing p with
  | nil => cases h
  | cons b bytes ih =>
    cases hadd : p.add? b with
    | none =>
      simp only [fetchFrom, hadd, Option.some.injEq, Prod.mk.injEq] at h
      obtain ⟨rfl, rfl⟩ := h
      exact ⟨[b], rfl, .one (fun rest => by simp [fetchFrom, hadd]) rfl⟩
    | some q =>
      simp only [fetchFrom, hadd] at h
      -- The prefix is one more byte in front of what the rest takes, so no case is added to `short`
      -- but that of no bytes at all.
      obtain ⟨used, rfl, hused⟩ := ih q h
      refine ⟨b :: used, rfl, ⟨fun rest => ?_, fun n hn => ?_⟩⟩
      · simpa [fetchFrom, hadd] using hused.whole rest
      · cases n with
        | zero => rfl
        | succ n =>
          simpa [fetchFrom, hadd] using hused.short n (Nat.lt_of_succ_lt_succ hn)

theorem ModRM.fetch_sequential : Sequential ModRM.fetch :=
  .bind .byte fun _ => .pure _

theorem ModRM.fetchAddress_sequential (size : CodeSize) (m : ModRM) :
    Sequential (m.fetchAddress size) := by
  cases size with
  | bits16 => exact .skip _
  | bits32 =>
    simp only [fetchAddress]
    split
    · exact .bind .byte fun _ => .skip _
    · exact .skip _

theorem fetchOperands_sequential (size : CodeSize) (p : Prefixes) (operands : Operands) :
    Sequential (fetchOperands size p operands) := by
  have hfinish : ∀ form inMemory, Sequential (fetchOperands.finish size p form inMemory) :=
    fun _ _ => .bind (.skip _) fun _ => .ofOption _
  cases operands with
  | plain form => exact hfinish form false
  | addressed form? =>
    exact .bind ModRM.fetch_sequential fun m => .bind (.ofOption _) fun form =>
      .bind (m.fetchAddress_sequential _) fun _ => hfinish form _
  | registers form? =>
    exact .bind ModRM.fetch_sequential fun m => .bind (.ofOption _) fun form => hfinish form _
  | suffixed suffixes =>
    exact .bind ModRM.fetch_sequential fun m => .bind (m.fetchAddress_sequential _) fun _ =>
      .bind .byte fun _ => .ofOption _

theorem fetchOpcode_sequential (opcode : UInt8) : Sequential (fetchOpcode opcode) := by
  unfold fetchOpcode
  split
  · exact .bind .byte fun _ => .ofOption _
  · exact .ofOption _

theorem fetch_sequential (size : CodeSize) : Sequential (fetch size) :=
  .bind (Prefixes.fetchFrom_sequential {}) fun (p, opcode) =>
    .bind (fetchOpcode_sequential opcode) fun operands =>
      .bind (fetchOperands_sequential size p operands) fun _ => .pure _

/-! ## Decoding -/

variable {size : CodeSize} {code : List UInt8} {i : Instruction}

/-- Bytes behind the fifteenth are not looked at. -/
theorem decode?_take (size : CodeSize) (code : List UInt8) :
    decode? size (code.take maxLength) = decode? size code := by
  simp [decode?, List.take_take]

/-- An instruction lies in the first fifteen bytes. Its own bytes alone make it out, and no part of
them does. -/
theorem decode?_extent (h : decode? size code = some i) :
    1 ≤ i.length ∧ i.length ≤ min maxLength code.length ∧
      (∀ more, decode? size (code.take i.length ++ more) = some i) ∧
      ∀ n < i.length, decode? size (code.take n) = none := by
  simp only [decode?, Option.map_eq_some_iff] at h
  obtain ⟨⟨⟨p, form⟩, rest⟩, hfetch, rfl⟩ := h
  obtain ⟨used, hwindow, hused⟩ := fetch_sequential size _ _ _ hfetch
  have hlen : (code.take maxLength).length - rest.length = used.length := by
    rw [hwindow, List.length_append, Nat.add_sub_cancel]
  have hle : used.length ≤ min maxLength code.length := by
    rw [← List.length_take, hwindow, List.length_append]
    exact Nat.le_add_right ..
  have htaken : code.take used.length = used := by
    have hfirst : (code.take maxLength).take used.length = used := by
      rw [hwindow, List.take_left]
    rwa [List.take_take, Nat.min_eq_left (Nat.le_trans hle (Nat.min_le_left ..))] at hfirst
  have hnonempty : used ≠ [] := by
    rintro rfl
    cases hused.whole []
  simp only [hlen, htaken]
  refine ⟨List.length_pos_iff.mpr hnonempty, hle, fun more => ?_, fun n hn => ?_⟩
  · have hfits : used.length ≤ maxLength := Nat.le_trans hle (Nat.min_le_left ..)
    rw [decode?, List.take_append, List.take_of_length_le hfits]
    simp [hused.whole]
  · have hcut : (code.take n).take maxLength = used.take n := by
      rw [← htaken, List.take_take, List.take_take]
      congr 1
      omega
    simp [decode?, hcut, hused.short n hn]

end DebugConsole.Instruction

namespace DebugConsole

/-! ## Stepping over -/

/-- Offsets wrap where the size of the code says. -/
theorem CodeSize.toNat_wrap (size : CodeSize) (n : Nat) :
    (UInt32.ofNat (n % size.span)).toNat = n % 2 ^ size.bits := by
  have hspan : size.span = 2 ^ size.bits := by cases size <;> rfl
  have hfits : size.span ≤ 2 ^ 32 := by cases size <;> decide
  have hpos : 0 < size.span := by cases size <;> decide
  have hwrap : n % size.span < 2 ^ 32 := Nat.lt_of_lt_of_le (Nat.mod_lt _ hpos) hfits
  rw [UInt32.toNat_ofNat_of_lt' hwrap, hspan]

variable {size : CodeSize} {code : List UInt8} {a t : Address}

/-- What is stepped over is an instruction that comes back, and execution resumes as far on as it is
long. -/
theorem stepOverTarget_eq_some_iff : stepOverTarget size a code = some t ↔
    ∃ i, Instruction.decode? size code = some i ∧ i.comesBack = true ∧ t.segment = a.segment ∧
      t.offset.toNat = (a.offset.toNat + i.length) % 2 ^ size.bits := by
  unfold stepOverTarget
  cases hdecode : Instruction.decode? size code with
  | none => simp
  | some i =>
    simp only [Option.ite_none_right_eq_some, Option.some.injEq, exists_eq_left']
    refine and_congr_right fun _ => ⟨?_, fun h => ?_⟩
    · rintro rfl
      exact ⟨rfl, size.toNat_wrap _⟩
    · obtain ⟨segment, offset⟩ := t
      obtain ⟨rfl, htarget⟩ := h
      rw [← size.toNat_wrap, UInt32.toNat_inj] at htarget
      exact congrArg (Address.mk a.segment) htarget.symm

/-- The target depends on nothing but the instruction. -/
theorem stepOverTarget_congr {code' : List UInt8}
    (h : Instruction.decode? size code = Instruction.decode? size code') :
    stepOverTarget size a code = stepOverTarget size a code' := by
  unfold stepOverTarget
  rw [h]

/-- Fifteen bytes are always enough to step over an instruction, and every one that comes back is
stepped over. Execution resumes right behind it: its own bytes, which do not depend on where it
lies, give the same target whatever follows them, and none where they are cut short. -/
theorem stepOverTarget_exact (size : CodeSize) (code : List UInt8) :
    (∀ a, stepOverTarget size a code = stepOverTarget size a (code.take 15)) ∧
      (∀ a, (∃ t, stepOverTarget size a code = some t) ↔
        ∃ i, Instruction.decode? size code = some i ∧ i.comesBack = true) ∧
      ∃ len, ∀ a t, stepOverTarget size a code = some t →
        1 ≤ len ∧ len ≤ min 15 code.length ∧
        t.segment = a.segment ∧ t.offset.toNat = (a.offset.toNat + len) % 2 ^ size.bits ∧
        (∀ more, stepOverTarget size a (code.take len ++ more) = some t) ∧
        ∀ n < len, stepOverTarget size a (code.take n) = none := by
  refine ⟨fun a => stepOverTarget_congr (Instruction.decode?_take size code).symm,
    fun a => ⟨?_, ?_⟩, ((Instruction.decode? size code).map (·.length)).getD 0,
    fun a t htarget => ?_⟩
  · rintro ⟨t, htarget⟩
    obtain ⟨i, hdecode, hback, -⟩ := stepOverTarget_eq_some_iff.mp htarget
    exact ⟨i, hdecode, hback⟩
  · rintro ⟨i, hdecode, hback⟩
    exact ⟨_, by rw [stepOverTarget, hdecode]; exact if_pos hback⟩
  obtain ⟨i, hdecode, -, hsegment, hoffset⟩ := stepOverTarget_eq_some_iff.mp htarget
  obtain ⟨hpos, hle, hmore, hshort⟩ := Instruction.decode?_extent hdecode
  rw [hdecode, Option.map_some, Option.getD_some]
  refine ⟨hpos, hle, hsegment, hoffset, fun more => ?_, fun n hn => ?_⟩
  · rw [← htarget]
    exact stepOverTarget_congr ((hmore more).trans hdecode.symm)
  · unfold stepOverTarget
    rw [hshort n hn]

/-- A repeated addition with both size prefixes, a segment override, a scaled address and an
immediate fills all fifteen bytes, at the end of a 16-bit segment. -/
theorem stepOverTarget_exact_fifteen :
    let code : List UInt8 :=
      [0xF3, 0x66, 0x67, 0x2E, 0x81, 0x84, 0x88, 1, 2, 3, 4, 5, 6, 7, 8]
    let a : Address := ⟨0x1000, 0xFFF8⟩
    stepOverTarget .bits16 a code = some ⟨0x1000, 7⟩ ∧
      (∀ more, stepOverTarget .bits16 a (code ++ more) = some ⟨0x1000, 7⟩) ∧
      ∀ n < 15, stepOverTarget .bits16 a (code.take n) = none := by
  intro code a
  have htarget : stepOverTarget .bits16 a code = some ⟨0x1000, 7⟩ := by decide
  obtain ⟨-, -, len, hextent⟩ := stepOverTarget_exact .bits16 code
  obtain ⟨-, hle, -, hoffset, hmore, hshort⟩ := hextent a ⟨0x1000, 7⟩ htarget
  have hmax : len ≤ 15 := Nat.le_trans hle (Nat.min_le_left ..)
  have hwrap : 7 = (0xFFF8 + len) % 2 ^ 16 := hoffset
  obtain rfl : len = 15 := by omega
  exact ⟨htarget, hmore, hshort⟩

end DebugConsole
