import Mathlib.Algebra.Group.Nat.Defs
import DebugConsole.Machine.Address
import DebugConsole.Text.Blank

/-!
# Tokens of printed lines

What the console prints in columns can be typed again.

- **Hexadecimal digits** (`readDigits_hexDigits`, `readHex32_word`, `readHex32_long`): a number
  printed with enough digits is read back.
- **Decimal digits** (`readUnsigned_toString`): a number in decimal is read back.
- **Runs** (`runs_append_cons`): the text up to a separator is one run.
- **Words** (`IsWord`): the texts that can be words of a line.
- **Tokens** (`pieces_intercalate`, `words_intercalate`): tokens joined by spaces are parted again,
  and are the words of the line.
- **Addresses** (`Address.isWord_text`): a printed address is one word of thirteen characters.
-/

namespace DebugConsole

namespace Text

/-! ## Hexadecimal digits -/

theorem digitValue?_hexDigit : ∀ n < 16, digitValue? 16 (hexDigit n) = some n := by
  decide

@[simp] theorem length_hexDigits (width n : Nat) : (hexDigits width n).length = width := by
  induction width generalizing n with
  | zero => rfl
  | succ width ih => simp [hexDigits, ih]

/-- What holds of the sixteen digits holds of every digit of a number. -/
theorem forall_mem_hexDigits {P : Char → Prop} (h : ∀ d < 16, P (hexDigit d)) (width n : Nat) :
    ∀ c ∈ hexDigits width n, P c := by
  induction width generalizing n with
  | zero => simp [hexDigits]
  | succ width ih =>
    rw [hexDigits, List.forall_mem_append]
    refine ⟨ih (n / 16), ?_⟩
    rw [List.forall_mem_singleton]
    exact h (n % 16) (Nat.mod_lt n (by decide))

theorem space_not_mem_hex (width n : Nat) : ' ' ∉ (hex width n).toList := by
  intro h
  rw [hex, String.toList_ofList] at h
  exact forall_mem_hexDigits (P := (· ≠ ' ')) (by decide) width n _ h rfl

/-- The digits of a number are read behind those before them. -/
theorem readDigits_hexDigits {limit acc width n : Nat} (hn : n < 16 ^ width)
    (hlimit : acc * 16 ^ width + n < limit) (rest : List Char) :
    readDigits 16 limit acc (hexDigits width n ++ rest) =
      readDigits 16 limit (acc * 16 ^ width + n) rest := by
  induction width generalizing n rest with
  | zero =>
    have hzero : n = 0 := by simpa using hn
    simp [hexDigits, hzero]
  | succ width ih =>
    rw [Nat.pow_succ] at hn hlimit ⊢
    have hvalue : (acc * 16 ^ width + n / 16) * 16 + n % 16 = acc * (16 ^ width * 16) + n := by
      rw [Nat.add_mul, Nat.mul_assoc, Nat.add_assoc, Nat.div_add_mod']
    have hbefore := ih (n := n / 16) (by omega) (by omega) (hexDigit (n % 16) :: rest)
    have hdigit := digitValue?_hexDigit (n % 16) (Nat.mod_lt n (by decide))
    rw [hexDigits, List.append_assoc, List.singleton_append, hbefore, readDigits, hdigit]
    simp only [hvalue, hlimit, if_true]

/-- A printed number is read back. -/
theorem readHex32_hexDigits {width n : Nat} (hwidth : width ≠ 0) (hn : n < 16 ^ width)
    (h32 : n < UInt32.size) : readHex32 (hexDigits width n) = some (UInt32.ofNat n) := by
  have hne : (hexDigits width n).isEmpty = false := by
    rw [List.isEmpty_eq_false_iff, ← List.length_pos_iff, length_hexDigits]
    omega
  have hread : readDigits 16 UInt32.size 0 (hexDigits width n) = .ok n := by
    have hlimit : 0 * 16 ^ width + n < UInt32.size := by omega
    have := readDigits_hexDigits hn hlimit []
    simpa [readDigits] using this
  simp [readHex32, hne, hread, Except.toOption]

/-- The digits of a 16-bit value are read back. -/
theorem readHex32_word (n : UInt16) : readHex32 (hex 4 n.toNat).toList = some n.toUInt32 := by
  have hn : n.toNat < UInt16.size := n.toNat_lt
  have h32 : n.toNat < UInt32.size := by
    simp only [UInt16.size, UInt32.size] at *
    omega
  have hvalue : UInt32.ofNat n.toNat = n.toUInt32 := by
    rw [← UInt32.toNat_inj, UInt32.toNat_ofNat_of_lt' h32, UInt16.toNat_toUInt32]
  rw [hex, String.toList_ofList, readHex32_hexDigits (by decide) hn h32, hvalue]

/-- The digits of a 32-bit value are read back. -/
theorem readHex32_long (n : UInt32) : readHex32 (hex 8 n.toNat).toList = some n := by
  rw [hex, String.toList_ofList, readHex32_hexDigits (by decide) n.toNat_lt n.toNat_lt,
    UInt32.ofNat_toNat]

/-! ## Decimal digits -/

theorem isDigit_of_mem_toString {n : Nat} {c : Char} (h : c ∈ (toString n).toList) :
    c.isDigit = true := by
  have hdigit : c ∈ Nat.toDigits 10 n := by simpa using h
  exact Nat.isDigit_of_mem_toDigits (by decide) (by decide) hdigit

theorem digitValue?_digitChar :
    ∀ base ≤ 16, ∀ n < base, digitValue? base (Nat.digitChar n) = some n := by
  decide

/-- The digits of a number are read in front of those behind them. -/
theorem readDigits_toDigits {base limit n : Nat} (hbase : 1 < base) (hbase' : base ≤ 16)
    (hn : n < limit) (rest : List Char) :
    readDigits base limit 0 (Nat.toDigits base n ++ rest) = readDigits base limit n rest := by
  induction n using Nat.strongRecOn generalizing rest with
  | ind n ih =>
    have hdigit := digitValue?_digitChar base hbase' (n % base) (Nat.mod_lt n (by omega))
    by_cases hsmall : n < base
    · rw [Nat.mod_eq_of_lt hsmall] at hdigit
      rw [Nat.toDigits_of_lt_base hsmall, List.singleton_append, readDigits, hdigit]
      simp [hn]
    · have hvalue : n / base * base + n % base = n := Nat.div_add_mod' n base
      have hless : n / base < n := Nat.div_lt_self (by omega) hbase
      rw [Nat.toDigits_of_base_le hbase (by omega), List.append_assoc,
        List.singleton_append, ih (n / base) hless (by omega), readDigits, hdigit]
      simp only [hvalue, hn, if_true]

/-- A number in decimal is read back. -/
theorem readUnsigned_toString {limit n : Nat} (hn : n < limit) :
    readUnsigned 10 limit (toString n) = .ok n := by
  have hread : readDigits 10 limit 0 (toString n).toList = .ok n := by
    have := readDigits_toDigits (by decide : 1 < 10) (by decide) hn []
    simpa [readDigits] using this
  cases hdigits : (toString n).toList with
  | nil => exact absurd hdigits (by simp [Nat.toDigits_ne_nil])
  | cons c digits =>
    have hplus : c ≠ '+' := by
      rintro rfl
      exact absurd (isDigit_of_mem_toString (hdigits ▸ List.mem_cons_self ..)) (by decide)
    rw [hdigits] at hread
    simp only [readUnsigned, hdigits]
    simpa [hplus] using hread

/-! ## Runs -/

section Runs

variable {separates : Char → Bool}

/-- A run of other characters, up to a separator. -/
theorem runs_append_cons {token : List Char} {c : Char} (hne : token ≠ [])
    (htoken : ∀ d ∈ token, separates d = false) (hc : separates c = true) (rest : List Char) :
    runs separates (.ofList (token ++ c :: rest)) =
      .ofList token :: runs separates (.ofList rest) := by
  have hsplit := List.splitOnP_append_cons_of_forall_mem htoken c hc rest
  simp [runs, hsplit, hne]

theorem runs_of_separators {cs : List Char} (h : ∀ c ∈ cs, separates c = true) :
    runs separates (.ofList cs) = [] := by
  induction cs with
  | nil => simp [runs]
  | cons c rest ih =>
    obtain ⟨hc, hrest⟩ := List.forall_mem_cons.mp h
    have hsplit : (c :: rest).splitOnP separates = [] :: rest.splitOnP separates :=
      List.splitOnP_append_cons_of_forall_mem (List.forall_mem_nil _) c hc rest
    have hnone := ih hrest
    simp only [runs, String.toList_ofList] at hnone ⊢
    simpa [hsplit] using hnone

end Runs

/-! ## Words -/

/-- A text that can be a word of a line. -/
structure IsWord (token : String) : Prop where
  ne_empty : token ≠ ""
  no_space : ' ' ∉ token.toList

instance (token : String) : Decidable (IsWord token) :=
  decidable_of_iff (token ≠ "" ∧ ' ' ∉ token.toList)
    ⟨fun h => ⟨h.1, h.2⟩, fun h => ⟨h.ne_empty, h.no_space⟩⟩

theorem IsWord.append {token rest : String} (h : IsWord token) (hrest : IsWord rest) :
    IsWord (token ++ rest) := by
  refine ⟨?_, ?_⟩
  · simp [h.ne_empty]
  · simp [h.no_space, hrest.no_space]

theorem isWord_hex {width : Nat} (hwidth : width ≠ 0) (n : Nat) : IsWord (hex width n) := by
  refine ⟨fun hempty => hwidth ?_, space_not_mem_hex width n⟩
  have hlength := congrArg (·.toList.length) hempty
  simpa [hex] using hlength

/-- The digits of a byte behind a zero, as a command takes them. -/
theorem isWord_zero_hex (n : Nat) : IsWord ("0" ++ hex 2 n) :=
  IsWord.append (by decide) (isWord_hex (by decide) n)

theorem isWord_toString (n : Nat) : IsWord (toString n) :=
  ⟨by simp, fun h => absurd (isDigit_of_mem_toString h) (by decide)⟩

/-! ## Tokens -/

/-- What single spaces part; nothing between two of them is an empty piece. -/
def pieces (s : String) : List String :=
  (s.toList.splitOnP (· == ' ')).map String.ofList

theorem splitOnP_intercalate {tokens : List String} (hne : tokens ≠ [])
    (h : ∀ token ∈ tokens, ' ' ∉ token.toList) :
    (" ".intercalate tokens).toList.splitOnP (· == ' ') = tokens.map String.toList := by
  rw [String.toList_intercalate]
  refine List.splitOn_intercalate ' ' ?_ (by simpa using hne)
  simpa using h

theorem pieces_intercalate {tokens : List String} (hne : tokens ≠ [])
    (h : ∀ token ∈ tokens, ' ' ∉ token.toList) : pieces (" ".intercalate tokens) = tokens := by
  rw [pieces, splitOnP_intercalate hne h, List.map_map]
  simp

theorem words_intercalate {tokens : List String} (hne : tokens ≠ [])
    (h : ∀ token ∈ tokens, IsWord token) : words (" ".intercalate tokens) = tokens := by
  have hsplit := splitOnP_intercalate hne fun token htoken => (h token htoken).no_space
  have hfilter : (tokens.map String.toList).filter (!·.isEmpty) = tokens.map String.toList := by
    rw [List.filter_eq_self, List.forall_mem_map]
    intro token htoken
    simpa using (h token htoken).ne_empty
  rw [words, runs, hsplit, hfilter, List.map_map]
  simp

end Text

/-! ## Addresses -/

namespace Address

theorem length_text (a : Address) : a.text.toList.length = 13 := by
  simp [text, Text.hex]

theorem isWord_text (a : Address) : Text.IsWord a.text := by
  have hsegment := Text.isWord_hex (by decide : 4 ≠ 0) a.segment.toNat
  have hoffset := Text.isWord_hex (by decide : 8 ≠ 0) a.offset.toNat
  have hcolon : Text.IsWord ":" := by decide
  exact (hsegment.append hcolon).append hoffset

end Address

end DebugConsole
