import Mathlib.Data.Nat.Digits.Defs
import DebugConsole.Text.Number

/-!
# Digits and their value

What the readers of numbers accept, said by the value of all digits together (`Text.digits?`): there
is no limit while it is formed, and no order in which faults are noticed.

- **One digit after the other** (`readDigits_eq_ok_iff`): no value on the way exceeds the last one.
- **Readers** (`readHex32_eq_some_iff`, `readUnsigned_eq_ok_iff`): digits whose value is below the
  limit.
-/

namespace DebugConsole.Text

variable {base limit acc n : Nat} {cs : List Char}

/-- The value of digits, at least one and however many. -/
def digits? (base : Nat) (cs : List Char) : Option Nat :=
  if cs.isEmpty then none
  else (cs.mapM (digitValue? base)).map fun ds => Nat.ofDigits base ds.reverse

/-! ## One digit after the other -/

theorem readDigits_eq_ok_iff (hbase : 0 < base) (hacc : acc < limit) :
    readDigits base limit acc cs = .ok n ↔ n < limit ∧ ∃ ds, cs.mapM (digitValue? base) = some ds ∧
      acc * base ^ ds.length + Nat.ofDigits base ds.reverse = n := by
  induction cs generalizing acc with
  | nil =>
    constructor
    · rintro ⟨⟩
      exact ⟨hacc, [], rfl, by simp⟩
    · rintro ⟨-, ds, ⟨⟩, rfl⟩
      simp [readDigits]
  | cons c rest ih =>
    cases hc : digitValue? base c with
    | none => simp [readDigits, hc]
    | some d =>
      -- The first digit counts as often as there are values of the digits behind it.
      have hvalue (ds : List Nat) : acc * base ^ (d :: ds).length +
          Nat.ofDigits base (d :: ds).reverse =
            (acc * base + d) * base ^ ds.length + Nat.ofDigits base ds.reverse := by
        rw [Nat.ofDigits_reverse_cons, List.length_cons, Nat.pow_succ]
        ring
      have hdigits (P : List Nat → Prop) :
          (∃ ds, (c :: rest).mapM (digitValue? base) = some ds ∧ P ds) ↔
            ∃ ds, rest.mapM (digitValue? base) = some ds ∧ P (d :: ds) := by
        rw [List.mapM_cons, hc]
        cases rest.mapM (digitValue? base) <;> simp
      rw [hdigits]
      simp only [readDigits, hc, hvalue]
      by_cases hlimit : acc * base + d < limit
      · rw [if_pos hlimit, ih hlimit]
      · rw [if_neg hlimit]
        refine iff_of_false (by simp) ?_
        rintro ⟨hn, ds, -, rfl⟩
        have hle : acc * base + d ≤ (acc * base + d) * base ^ ds.length :=
          Nat.le_mul_of_pos_right _ (Nat.pow_pos hbase)
        omega

/-! ## Readers -/

theorem digits?_eq_some_iff :
    digits? base cs = some n ↔ cs ≠ [] ∧
      ∃ ds, cs.mapM (digitValue? base) = some ds ∧ Nat.ofDigits base ds.reverse = n := by
  unfold digits?
  by_cases hne : cs = []
  · simp [hne]
  · simp [hne]

theorem isSome_of_digits? (h : digits? base cs = some n) :
    ∀ c ∈ cs, (digitValue? base c).isSome = true := by
  obtain ⟨-, ds, hds, -⟩ := digits?_eq_some_iff.mp h
  clear h
  induction cs generalizing ds with
  | nil => simp
  | cons c rest ih =>
    simp only [List.mapM_cons, Option.bind_eq_bind, Option.bind_eq_some_iff] at hds
    obtain ⟨d, hd, ds, hrest, -⟩ := hds
    exact List.forall_mem_cons.mpr ⟨by simp [hd], ih ds hrest⟩

theorem readDigits_zero_eq_ok_iff (hbase : 0 < base) (hlimit : 0 < limit) (hne : cs ≠ []) :
    readDigits base limit 0 cs = .ok n ↔ digits? base cs = some n ∧ n < limit := by
  rw [readDigits_eq_ok_iff hbase hlimit, digits?_eq_some_iff, and_comm]
  simp [hne]

theorem readHex32_eq_some_iff {value : UInt32} :
    readHex32 cs = some value ↔ digits? 16 cs = some value.toNat := by
  unfold readHex32
  by_cases hne : cs = []
  · simp [hne, digits?]
  have hread (n : Nat) : readDigits 16 UInt32.size 0 cs = .ok n ↔
      digits? 16 cs = some n ∧ n < UInt32.size :=
    readDigits_zero_eq_ok_iff (by decide) (by decide) hne
  rw [if_neg (by simpa using hne)]
  cases h : readDigits 16 UInt32.size 0 cs with
  | error e =>
    refine iff_of_false (by simp [Except.toOption]) fun hdigits => ?_
    rw [(hread _).mpr ⟨hdigits, value.toNat_lt⟩] at h
    cases h
  | ok n =>
    obtain ⟨hdigits, hn⟩ := (hread n).mp h
    rw [hdigits]
    constructor
    · rintro ⟨⟩
      exact congrArg some (UInt32.toNat_ofNat_of_lt' hn).symm
    · rintro ⟨⟩
      simp [Except.toOption]

theorem readHex32_of_digits? (h : digits? 16 cs = some n) (hn : n < 2 ^ 32) :
    readHex32 cs = some (.ofNat n) :=
  readHex32_eq_some_iff.mpr (by rw [h, UInt32.toNat_ofNat_of_lt' hn])

theorem digits?_nil : digits? base [] = none :=
  rfl

theorem digits?_plus (rest : List Char) : digits? base ('+' :: rest) = none := by
  simp [digits?, digitValue?]

/-- Digits with a plus in front of them, or without. -/
theorem readUnsigned_eq_ok_iff (hbase : 0 < base) (hlimit : 0 < limit) {s : String} :
    readUnsigned base limit s = .ok n ↔ n < limit ∧ ∃ digits,
      (s.toList = digits ∨ s.toList = '+' :: digits) ∧ digits? base digits = some n := by
  have hread {cs : List Char} (hne : cs ≠ []) : readDigits base limit 0 cs = .ok n ↔
      digits? base cs = some n ∧ n < limit := readDigits_zero_eq_ok_iff hbase hlimit hne
  unfold readUnsigned
  cases hs : s.toList with
  | nil => simp [digits?_nil]
  | cons c rest =>
    by_cases hc : c = '+'
    · subst hc
      have hdigits (digits : List Char) :
          ('+' :: rest = digits ∨ '+' :: rest = '+' :: digits) ∧ digits? base digits = some n ↔
            rest = digits ∧ digits? base digits = some n := by
        constructor
        · rintro ⟨rfl | h, hn⟩
          · simp [digits?_plus] at hn
          · exact ⟨List.tail_eq_of_cons_eq h, hn⟩
        · rintro ⟨rfl, hn⟩
          exact ⟨.inr rfl, hn⟩
      simp only [hdigits, exists_eq_left', readNonempty]
      by_cases hne : rest = []
      · simp [hne, digits?_nil]
      · rw [if_neg (by simpa using hne), hread hne, and_comm]
    · have hplus (digits : List Char) : c :: rest ≠ '+' :: digits := by simp [hc]
      simp only [hplus, or_false, exists_eq_left']
      rw [and_comm, ← hread (List.cons_ne_nil c rest)]

end DebugConsole.Text
