import DebugConsole.Proofs.Command.OperandLemmas
import DebugConsole.Proofs.Text.Numerals

/-!
# Integers as operands

Which tokens are numbers, and of which value.

- **Grammar** (`SpellsInteger`): hexadecimal digits behind `0x` or behind a zero, else a decimal
  number. A token is accepted exactly if it is one of these (`integer_eq_ok_iff`).
- **Ranges** (`count_eq_ok_iff`, `byte_eq_ok_iff`): counts and bytes are integers of a range.
- **Round trip** (`spellsInteger_decimal`, `spellsInteger_hex`): what a value is written as is read
  as that value.
-/

namespace DebugConsole.Operand

variable {token : String}

/-! ## Grammar -/

/-- The signed value of 32 bits. -/
def signed32 (bits : Nat) : Int :=
  if bits < 2 ^ 31 then bits else bits - 2 ^ 32

/-- The spellings of an integer. -/
@[mk_iff]
inductive SpellsInteger (token : String) : Int → Prop where
  | zero (htoken : token.toList = ['0']) : SpellsInteger token 0
  | marked {digits : List Char} {bits : Nat} (htoken : token.toList = '0' :: 'x' :: digits)
    (h : Text.digits? 16 digits = some bits) (hbits : bits < 2 ^ 32) :
    SpellsInteger token (signed32 bits)
  | zeroed {digits : List Char} {bits : Nat} (htoken : token.toList = '0' :: digits)
    (h : Text.digits? 16 digits = some bits) (hbits : bits < 2 ^ 32) :
    SpellsInteger token (signed32 bits)
  | decimal {value : Int} (hzero : token.toList.head? ≠ some '0')
    (h : Text.SpellsDecimal token.toList value) (hlow : -2 ^ 31 ≤ value) (hhigh : value < 2 ^ 31) :
    SpellsInteger token value

theorem toInt_toInt32 (bits : UInt32) : bits.toInt32.toInt = signed32 bits.toNat := by
  have hbits : bits.toNat < 2 ^ 32 := bits.toNat_lt
  have hvalue : bits.toInt32.toInt = bits.toBitVec.toInt := rfl
  rw [hvalue, BitVec.toInt_eq_toNat_cond, signed32]
  simp only [UInt32.toNat_toBitVec]
  split <;> split <;> omega

/-- Hexadecimal digits give the signed value of their bits. -/
theorem readHex32_toInt32_eq_some_iff {digits : List Char} {n : Int32} :
    (Text.readHex32 digits).map UInt32.toInt32 = some n ↔
      ∃ bits, Text.digits? 16 digits = some bits ∧ bits < 2 ^ 32 ∧ n.toInt = signed32 bits := by
  rw [Option.map_eq_some_iff]
  constructor
  · rintro ⟨bits, h, rfl⟩
    exact ⟨bits.toNat, Text.readHex32_eq_some_iff.mp h, bits.toNat_lt, toInt_toInt32 bits⟩
  · rintro ⟨bits, h, hbits, hn⟩
    refine ⟨.ofNat bits, Text.readHex32_of_digits? h hbits, ?_⟩
    rw [← Int32.toInt_inj, toInt_toInt32, UInt32.toNat_ofNat_of_lt' hbits, hn]

/-- A decimal number gives its own value. -/
theorem readSigned_ofInt_eq_some_iff {text : String} {n : Int32} :
    (Text.readSigned 0x80000000 text).toOption.map Int32.ofInt = some n ↔
      Text.SpellsDecimal text.toList n.toInt := by
  have hread (v : Int) : Text.readSigned 0x80000000 text = .ok v ↔
      Text.SpellsDecimal text.toList v ∧ -2 ^ 31 ≤ v ∧ v < 2 ^ 31 :=
    Text.readSigned_eq_ok_iff (by decide)
  constructor
  · intro h
    obtain ⟨v, hv, rfl⟩ := Option.map_eq_some_iff.mp h
    cases hok : Text.readSigned 0x80000000 text with
    | error e => simp [hok, Except.toOption] at hv
    | ok w =>
      obtain rfl : w = v := by simpa [hok, Except.toOption] using hv
      obtain ⟨hspells, hlow, hhigh⟩ := (hread w).mp hok
      rwa [Int32.toInt_ofInt_of_le hlow hhigh]
  · intro h
    rw [(hread n.toInt).mpr ⟨h, n.le_toInt, n.toInt_lt⟩]
    simp [Except.toOption]

theorem integer?_eq_some_iff {n : Int32} :
    integer? token.toList = some n ↔ SpellsInteger token n.toInt := by
  rw [spellsInteger_iff]
  unfold integer?
  split
  case h_1 digits hs =>
    have hx : Text.digits? 16 ('x' :: digits) = none := by simp [Text.digits?, digitValue?]
    rw [readHex32_toInt32_eq_some_iff]
    simp [hs, hx]
  case h_2 hs =>
    have hzero : 0 = n ↔ n.toInt = 0 := by rw [← Int32.toInt_inj, Int32.toInt_zero, eq_comm]
    simp [hs, Text.digits?_nil, hzero]
  case h_3 digits hmarked halone hs =>
    have hne : digits ≠ [] := halone
    have hx (rest : List Char) : digits ≠ 'x' :: rest := hmarked rest
    rw [readHex32_toInt32_eq_some_iff]
    simp [hs, hne, hx]
  case h_4 hmarked halone hzero =>
    have hhead : token.toList.head? ≠ some '0' := by
      intro h
      obtain ⟨rest, hrest⟩ := List.head?_eq_some_iff.mp h
      exact hzero rest hrest
    have hnone (rest : List Char) : token.toList ≠ '0' :: rest := hzero rest
    rw [readSigned_ofInt_eq_some_iff, String.toList_ofList]
    simpa [hnone, hhead] using fun _ => ⟨n.le_toInt, n.toInt_lt⟩

/-- A token is accepted exactly if it spells an integer, with the value that it spells. -/
theorem integer_eq_ok_iff {n : Int32} : integer token = .ok n ↔ SpellsInteger token n.toInt := by
  rw [← integer?_eq_some_iff, integer]
  cases integer? token.toList <;> simp

theorem SpellsInteger.bounds {value : Int} (h : SpellsInteger token value) :
    -2 ^ 31 ≤ value ∧ value < 2 ^ 31 := by
  have hsigned {bits : Nat} (hbits : bits < 2 ^ 32) :
      -2 ^ 31 ≤ signed32 bits ∧ signed32 bits < 2 ^ 31 := by
    unfold signed32
    split <;> omega
  cases h with
  | zero htoken => decide
  | marked htoken h hbits => exact hsigned hbits
  | zeroed htoken h hbits => exact hsigned hbits
  | decimal hzero h hlow hhigh => exact ⟨hlow, hhigh⟩

/-- Every spelled integer is the value of an accepted token. -/
theorem exists_integer_iff {value : Int} :
    (∃ n, integer token = .ok n ∧ n.toInt = value) ↔ SpellsInteger token value := by
  constructor
  · rintro ⟨n, h, rfl⟩
    exact integer_eq_ok_iff.mp h
  · intro h
    obtain ⟨hlow, hhigh⟩ := h.bounds
    have hvalue : (Int32.ofInt value).toInt = value := Int32.toInt_ofInt_of_le hlow hhigh
    exact ⟨Int32.ofInt value, integer_eq_ok_iff.mpr (by rwa [hvalue]), hvalue⟩

/-! ## Ranges -/

/-- A value that is refused under some condition is given if it is read and not refused. -/
theorem guarded_eq_ok_iff {α β : Type} {x : Except OperandError α} {refused : α → Prop}
    [DecidablePred refused] {fault : OperandError} {f : α → β} {b : β} :
    (do
      let a ← x
      if refused a then throw fault
      return f a) = Except.ok b ↔ ∃ a, x = .ok a ∧ ¬ refused a ∧ f a = b := by
  cases x with
  | error e => simp [bind, Except.bind]
  | ok a =>
    simp only [bind, Except.bind, Except.ok.injEq, exists_eq_left']
    by_cases h : refused a
    · simp [h, throw, throwThe, MonadExceptOf.throw]
    · simp [h, pure, Except.pure]

/-- A count is an integer that is not negative. -/
theorem count_eq_ok_iff {n : Int32} :
    count token = .ok n ↔ integer token = .ok n ∧ 0 ≤ n.toInt := by
  refine (guarded_eq_ok_iff (f := id)).trans ?_
  simp only [Int32.lt_iff_toInt_lt, Int32.toInt_zero, Int.not_lt]
  constructor
  · rintro ⟨m, hm, hle, rfl⟩
    exact ⟨hm, hle⟩
  · rintro ⟨hn, hle⟩
    exact ⟨n, hn, hle, rfl⟩

/-- A byte is an integer from 0 to 255. -/
theorem byte_eq_ok_iff {b : UInt8} :
    byte token = .ok b ↔ ∃ n, integer token = .ok n ∧ n.toInt = b.toNat := by
  refine guarded_eq_ok_iff.trans (exists_congr fun n => and_congr_right fun _ => ?_)
  have hb : b.toNat < UInt8.size := b.toNat_lt
  simp only [Bool.or_eq_true, decide_eq_true_eq, Int32.lt_iff_toInt_lt, Int32.toInt_zero,
    show (255 : Int32).toInt = 255 from rfl, ← UInt8.toNat_inj]
  constructor
  · rintro ⟨hrange, hvalue⟩
    rw [UInt8.toNat_ofNat_of_lt' (by simp only [UInt8.size]; omega)] at hvalue
    omega
  · intro hvalue
    simp only [UInt8.size] at hb
    rw [hvalue, Int.toNat_natCast, UInt8.toNat_ofNat_of_lt' hb]
    omega

/-! ## Round trip -/

/-- A value in decimal is spelled by its text. -/
theorem spellsInteger_decimal {value : Int} (hlow : -2 ^ 31 ≤ value) (hhigh : value < 2 ^ 31) :
    SpellsInteger (toString value) value := by
  have hdigits (n : Nat) : Text.digits? 10 (Nat.toDigits 10 n) = some n :=
    Text.digits?_toDigits (by decide) (by decide) n
  cases value with
  | ofNat n =>
    have htext : (toString (Int.ofNat n)).toList = Nat.toDigits 10 n := by
      show n.repr.toList = _
      simp
    by_cases hzero : n = 0
    · subst hzero
      exact .zero htext
    · refine .decimal ?_ (.unsigned ?_) hlow hhigh
      · rw [htext]
        exact Text.head?_toDigits_ne (by omega)
      · rw [htext]
        exact hdigits n
  | negSucc n =>
    have htext : (toString (Int.negSucc n)).toList = '-' :: Nat.toDigits 10 (n + 1) := by
      show ("-" ++ (n + 1).repr).toList = _
      simp
    refine .decimal ?_ (.minus htext (hdigits (n + 1))) hlow hhigh
    rw [htext]
    simp

/-- The hexadecimal digits of a value's 32 bits, in letters of either case and behind any number of
zeros, spell that value behind `0x` and behind a zero. -/
theorem spellsInteger_hex (n : Int32) (k : Nat) {text : String}
    (h : Text.sameName text (.ofList (Nat.toDigits 16 n.toUInt32.toNat)) = true) :
    SpellsInteger ("0x" ++ .ofList (List.replicate k '0') ++ text) n.toInt ∧
      SpellsInteger ("0" ++ .ofList (List.replicate k '0') ++ text) n.toInt := by
  have hbits : n.toUInt32.toNat < 2 ^ 32 := n.toUInt32.toNat_lt
  have hvalue : n.toInt = signed32 n.toUInt32.toNat := by
    rw [← toInt_toInt32, Int32.toInt32_toUInt32]
  have hdigits : Text.digits? 16 (List.replicate k '0' ++ text.toList) =
      some n.toUInt32.toNat := by
    refine Text.digits?_zeros (by decide) ?_ k
    rw [Text.digits?_congr (Text.sameName_iff.mp h), String.toList_ofList,
      Text.digits?_toDigits (by decide) (by decide)]
  rw [hvalue]
  exact ⟨.marked (by simp) hdigits hbits, .zeroed (by simp) hdigits hbits⟩

/-- A token is a number exactly if it is spelled as one, a count if that number is not negative, and
a byte if it is at most 255 as well; its value is the one spelled. So a number in decimal is read as
itself, and so are the hexadecimal digits of its 32 bits, behind `0x` or a zero. The digits of a
base are the first of `0` to `f`, with letters in either case. -/
theorem integer_exact :
    (∀ (token : String) (value : Int),
      ((∃ n, integer token = .ok n ∧ n.toInt = value) ↔ SpellsInteger token value) ∧
      ((∃ n, count token = .ok n ∧ n.toInt = value) ↔ SpellsInteger token value ∧ 0 ≤ value) ∧
      ((∃ b, byte token = .ok b ∧ b.toNat = value) ↔
        SpellsInteger token value ∧ 0 ≤ value ∧ value ≤ 255)) ∧
    (∀ n : Int32, integer (toString n.toInt) = .ok n ∧
      ∀ (k : Nat) (text : String),
        Text.sameName text (.ofList (Nat.toDigits 16 n.toUInt32.toNat)) = true →
          integer ("0x" ++ .ofList (List.replicate k '0') ++ text) = .ok n ∧
          integer ("0" ++ .ofList (List.replicate k '0') ++ text) = .ok n) ∧
    ∀ base ≤ 16, ∀ (c : Char) (d : Nat), digitValue? base c = some d ↔ d < base ∧
      ("0123456789abcdef".toList[d]? = some c ∨ "0123456789ABCDEF".toList[d]? = some c) := by
  refine ⟨fun token value => ⟨exists_integer_iff, ?_, ?_⟩, fun n => ⟨?_, fun k text h => ?_⟩,
    fun base hbase c d => digitValue?_eq_some_iff hbase⟩
  · simp only [count_eq_ok_iff, ← exists_integer_iff]
    constructor
    · rintro ⟨n, ⟨hn, hle⟩, rfl⟩
      exact ⟨⟨n, hn, rfl⟩, hle⟩
    · rintro ⟨⟨n, hn, rfl⟩, hle⟩
      exact ⟨n, ⟨hn, hle⟩, rfl⟩
  · simp only [byte_eq_ok_iff, ← exists_integer_iff]
    constructor
    · rintro ⟨b, hb, rfl⟩
      have hlt : b.toNat < 256 := b.toNat_lt
      exact ⟨hb, by omega, by omega⟩
    · rintro ⟨hn, hlow, hhigh⟩
      have hvalue : ((UInt8.ofNat value.toNat).toNat : Int) = value := by
        rw [UInt8.toNat_ofNat_of_lt' (by simp only [UInt8.size]; omega), Int.toNat_of_nonneg hlow]
      exact ⟨UInt8.ofNat value.toNat, by rwa [hvalue], hvalue⟩
  · exact integer_eq_ok_iff.mpr (spellsInteger_decimal n.le_toInt n.toInt_lt)
  · obtain ⟨hmarked, hzeroed⟩ := spellsInteger_hex n k h
    exact ⟨integer_eq_ok_iff.mpr hmarked, integer_eq_ok_iff.mpr hzeroed⟩

/-- All bits set, in letters of both cases and behind more zeros than 32 bits have digits. -/
theorem integer_exact_minus_one :
    Text.sameName "fFffFFff" (.ofList (Nat.toDigits 16 (-1 : Int32).toUInt32.toNat)) = true ∧
      integer "-1" = .ok (-1) ∧ integer "0x000000000fFffFFff" = .ok (-1) ∧
      integer "0000000000fFffFFff" = .ok (-1) := by
  have hsame : Text.sameName "fFffFFff" (.ofList (Nat.toDigits 16 (-1 : Int32).toUInt32.toNat)) =
      true := by decide +kernel
  obtain ⟨hdecimal, hhex⟩ := integer_exact.2.1 (-1)
  obtain ⟨hmarked, hzeroed⟩ := hhex 9 "fFffFFff" hsame
  exact ⟨hsame, hdecimal, hmarked, hzeroed⟩

end DebugConsole.Operand
