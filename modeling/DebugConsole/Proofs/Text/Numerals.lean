import DebugConsole.Proofs.Text.Digits
import DebugConsole.Proofs.Text.LetterCase
import DebugConsole.Proofs.Text.Tokens

/-!
# Spellings of a number

One number has many spellings, and all of them are read as that number.

- **Digits** (`digitValue?_eq_some_iff`): the characters that are digits of a base, in either letter
  case.
- **Spellings** (`digits?_zeros`, `digits?_congr`, `digits?_toDigits`): zeros in front and the case
  of letters make no difference, and a number in digits of its base has its own value.
- **Signs** (`SpellsDecimal`, `readSigned_eq_ok_iff`): a decimal number with at most one sign.
-/

namespace DebugConsole

/-! ## Digits -/

/-- Nothing behind the letter `f` is a digit. -/
theorem toNat_lt_of_digitValue? {base : Nat} {c : Char} {d : Nat}
    (h : digitValue? base c = some d) : c.toNat < 103 := by
  by_contra hc
  have hlarge (k : Char) (hk : k.toNat < 103) : ¬ c ≤ k := by
    intro hle
    have hnat : c.toNat ≤ k.toNat := UInt32.le_iff_toNat_le.mp hle
    omega
  have hnine := hlarge '9' (by decide)
  have hsmall := hlarge 'f' (by decide)
  have hcapital := hlarge 'F' (by decide)
  simp [digitValue?, hnine, hsmall, hcapital] at h

theorem digitValue?_eq_filter {base : Nat} (hbase : base ≤ 16) (c : Char) :
    digitValue? base c = (digitValue? 16 c).filter (· < base) := by
  unfold digitValue?
  dsimp only
  rw [Option.filter_filter]
  congr 1
  funext d
  by_cases hd : d < base
  · have hd16 : d < 16 := by omega
    simp [hd, hd16]
  · simp [hd]

/-- The digits of a base are its first small ones, or the capitals of these. -/
theorem digitValue?_eq_some_iff {base : Nat} (hbase : base ≤ 16) {c : Char} {d : Nat} :
    digitValue? base c = some d ↔ d < base ∧
      ("0123456789abcdef".toList[d]? = some c ∨ "0123456789ABCDEF".toList[d]? = some c) := by
  have hdigits : ∀ d < 16, ("0123456789abcdef".toList[d]?).bind (digitValue? 16) = some d ∧
      ("0123456789ABCDEF".toList[d]?).bind (digitValue? 16) = some d := by decide
  have hread : ∀ n < 103, ∀ d ∈ digitValue? 16 (Char.ofNat n), d < 16 ∧
      ("0123456789abcdef".toList[d]? = some (Char.ofNat n) ∨
        "0123456789ABCDEF".toList[d]? = some (Char.ofNat n)) := by decide
  rw [digitValue?_eq_filter hbase, Option.filter_eq_some_iff]
  constructor
  · rintro ⟨h, hd⟩
    have hc := hread c.toNat (toNat_lt_of_digitValue? h) d
    rw [Char.ofNat_toNat] at hc
    exact ⟨by simpa using hd, (hc h).2⟩
  · rintro ⟨hd, hc⟩
    obtain ⟨hsmall, hcapital⟩ := hdigits d (by omega)
    refine ⟨?_, by simpa using hd⟩
    rcases hc with hc | hc
    · rwa [hc] at hsmall
    · rwa [hc] at hcapital

namespace Text

variable {base limit n : Nat} {cs cs' : List Char}

/-! ## Spellings -/

theorem digits?_zero_cons (hbase : 0 < base) (hne : cs ≠ []) :
    digits? base ('0' :: cs) = digits? base cs := by
  have hzero : digitValue? base '0' = some 0 := by simp [digitValue?, hbase]
  unfold digits?
  rw [List.mapM_cons, hzero]
  cases cs.mapM (digitValue? base) <;> simp [hne, Nat.ofDigits_append]

/-- Zeros in front of a number make no difference. -/
theorem digits?_zeros (hbase : 0 < base) (h : digits? base cs = some n) (k : Nat) :
    digits? base (List.replicate k '0' ++ cs) = some n := by
  have hne : cs ≠ [] := (digits?_eq_some_iff.mp h).1
  induction k with
  | zero => simpa using h
  | succ k ih =>
    rw [List.replicate_succ, List.cons_append, digits?_zero_cons hbase (by simp [hne]), ih]

theorem digits?_toUpper (base : Nat) (cs : List Char) :
    digits? base (cs.map Char.toUpper) = digits? base cs := by
  unfold digits?
  have hmap : (cs.map Char.toUpper).mapM (digitValue? base) = cs.mapM (digitValue? base) := by
    induction cs with
    | nil => rfl
    | cons c rest ih => rw [List.map_cons, List.mapM_cons, List.mapM_cons, digitValue?_toUpper, ih]
  rw [hmap, List.isEmpty_map]

/-- The case of letters among the digits makes no difference. -/
theorem digits?_congr (h : cs.map Char.toUpper = cs'.map Char.toUpper) :
    digits? base cs = digits? base cs' := by
  rw [← digits?_toUpper, h, digits?_toUpper]

/-- A number in digits of its base has its own value. -/
theorem digits?_toDigits (hbase : 1 < base) (hbase' : base ≤ 16) (n : Nat) :
    digits? base (Nat.toDigits base n) = some n := by
  have hread := readDigits_toDigits hbase hbase' (Nat.lt_succ_self n) []
  rw [List.append_nil, readDigits] at hread
  exact ((readDigits_zero_eq_ok_iff (by omega) (Nat.succ_pos n) Nat.toDigits_ne_nil).mp hread).1

/-- No zero stands in front of a number in decimal, unless it is zero itself. -/
theorem head?_toDigits_ne {n : Nat} (hn : 0 < n) : (Nat.toDigits 10 n).head? ≠ some '0' := by
  induction n using Nat.strongRecOn with
  | ind n ih =>
    by_cases hsmall : n < 10
    · have hdigit : ∀ d < 10, 0 < d → Nat.digitChar d ≠ '0' := by decide
      rw [Nat.toDigits_of_lt_base hsmall]
      simpa using hdigit n hsmall hn
    · rw [Nat.toDigits_of_base_le (by decide) (by omega),
        List.head?_append_of_ne_nil _ Nat.toDigits_ne_nil]
      exact ih (n / 10) (by omega) (by omega)

/-! ## Signs -/

/-- A decimal number with at most one sign. -/
@[mk_iff]
inductive SpellsDecimal (cs : List Char) : Int → Prop where
  | unsigned {n : Nat} (h : digits? 10 cs = some n) : SpellsDecimal cs n
  | plus {digits : List Char} {n : Nat} (hcs : cs = '+' :: digits)
    (h : digits? 10 digits = some n) : SpellsDecimal cs n
  | minus {digits : List Char} {n : Nat} (hcs : cs = '-' :: digits)
    (h : digits? 10 digits = some n) : SpellsDecimal cs (-n)

theorem digits?_minus (rest : List Char) : digits? base ('-' :: rest) = none := by
  simp [digits?, digitValue?]

theorem readNonempty_eq_ok_iff (hbase : 0 < base) (hlimit : 0 < limit) :
    readNonempty base limit cs = .ok n ↔ digits? base cs = some n ∧ n < limit := by
  unfold readNonempty
  by_cases hne : cs = []
  · simp [hne, digits?_nil]
  · rw [if_neg (by simpa using hne), readDigits_zero_eq_ok_iff hbase hlimit hne]

theorem map_ofNat_eq_ok_iff {x : Except NumberError Nat} {v : Int} :
    x.map Int.ofNat = .ok v ↔ ∃ n : Nat, x = .ok n ∧ v = n := by
  cases x with
  | error e => simp [Except.map]
  | ok n => simp [Except.map, eq_comm]

/-- A number is read exactly if it is spelled in decimal and within the limits. -/
theorem readSigned_eq_ok_iff (hlimit : 0 < limit) {s : String} {v : Int} :
    readSigned limit s = .ok v ↔ SpellsDecimal s.toList v ∧ -limit ≤ v ∧ v < limit := by
  rw [spellsDecimal_iff]
  unfold readSigned
  split
  case h_1 hs => simp [hs, digits?_nil]
  case h_2 digits hs =>
    simp only [hs, digits?_plus, map_ofNat_eq_ok_iff,
      readNonempty_eq_ok_iff (by decide : 0 < 10) hlimit]
    constructor
    · rintro ⟨n, ⟨hn, hlt⟩, rfl⟩
      exact ⟨.inr (.inl ⟨digits, n, rfl, hn, rfl⟩), by omega, by omega⟩
    · rintro ⟨⟨_, h, -⟩ | ⟨digits, n, ⟨⟩, hn, rfl⟩ | ⟨_, _, h, -⟩, -, hlt⟩
      · cases h
      · exact ⟨n, ⟨hn, by omega⟩, rfl⟩
      · cases h
  case h_3 digits hs =>
    -- The digits behind a minus may reach the limit itself.
    have hread (n : Nat) : readNonempty 10 (limit + 1) digits = .ok n ↔
        digits? 10 digits = some n ∧ n < limit + 1 :=
      readNonempty_eq_ok_iff (by decide) (Nat.succ_pos limit)
    simp only [hs, digits?_minus]
    constructor
    · intro h
      split at h
      case h_1 n hn =>
        obtain ⟨hn, hlt⟩ := (hread n).mp hn
        cases h
        exact ⟨.inr (.inr ⟨digits, n, rfl, hn, rfl⟩), by omega, by omega⟩
      all_goals cases h
    · rintro ⟨⟨_, h, -⟩ | ⟨_, _, h, -⟩ | ⟨digits, n, ⟨⟩, hn, rfl⟩, hlow, -⟩
      · cases h
      · cases h
      · rw [(hread n).mpr ⟨hn, by omega⟩]
  case h_4 hne hplus hminus =>
    simp only [map_ofNat_eq_ok_iff, readDigits_zero_eq_ok_iff (by decide : 0 < 10) hlimit hne]
    constructor
    · rintro ⟨n, ⟨hn, hlt⟩, rfl⟩
      exact ⟨.inl ⟨n, hn, rfl⟩, by omega, by omega⟩
    · rintro ⟨⟨n, hn, rfl⟩ | ⟨digits, _, h, -⟩ | ⟨digits, _, h, -⟩, -, hlt⟩
      · exact ⟨n, ⟨hn, by omega⟩, rfl⟩
      · exact absurd h (hplus digits)
      · exact absurd h (hminus digits)

end Text

end DebugConsole
