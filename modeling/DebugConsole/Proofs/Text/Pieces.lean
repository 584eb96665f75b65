import DebugConsole.Proofs.Text.Utf8Lemmas

/-!
# Characters and malformed pieces

What the pieces of a byte sequence are, said without the decoder: at every point stands either the
bytes of a character or a malformed piece, which is the longest beginning of a character that
stands there, or a single byte if no character begins like that (`Utf8.Pieces`).

- **Inside a character** (`Opens`): the bytes seen so far, and how the decoder takes the next ones.
- **The first piece** (`scan_front`): the decoder takes the first piece off, then starts anew.
- **All pieces** (`pieces_iff`): the decoder gives the one decomposition that there is, so decoding
  puts one U+FFFD for each malformed piece (`lossy_iff`).
-/

namespace DebugConsole.Utf8

/-- The bytes of some character start like that. -/
def Begins (bytes : List UInt8) : Prop :=
  ∃ c : Char, bytes <+: String.utf8EncodeChar c

/-- A malformed piece, with `rest` behind it: no character stands here, and the piece is the longest
beginning of one, or a single byte. -/
structure Malformed (piece rest : List UInt8) : Prop where
  ne_nil : piece ≠ []
  noCharacter (c : Char) : ¬ String.utf8EncodeChar c <+: piece ++ rest
  begins : Begins piece ∨ piece.length = 1
  longest {longer : List UInt8} (h : longer <+: piece ++ rest) (hbegins : Begins longer) :
    longer.length ≤ piece.length

/-- The characters and malformed pieces of a byte sequence; `none` stands for a malformed one. -/
inductive Pieces : List UInt8 → List (Option Char) → Prop where
  | nil : Pieces [] []
  | character (c : Char) {rest : List UInt8} {pieces : List (Option Char)}
    (h : Pieces rest pieces) : Pieces (String.utf8EncodeChar c ++ rest) (some c :: pieces)
  | malformed {piece rest : List UInt8} {pieces : List (Option Char)}
    (hpiece : Malformed piece rest) (h : Pieces rest pieces) :
    Pieces (piece ++ rest) (none :: pieces)

/-- A text for a byte sequence that need not be one: U+FFFD stands for each malformed piece. -/
def Lossy (bytes : List UInt8) (text : String) : Prop :=
  ∃ pieces, Pieces bytes pieces ∧ text = .ofList (pieces.map (·.getD '\uFFFD'))

/-! ## Inside a character -/

/-- The bytes `seen` are inside a character: the next byte is one from `low` to `high`, and after
`more` further ones, the bits read make a character whose bytes these are. -/
def Opens : Nat → List UInt8 → Nat → UInt8 → UInt8 → Prop
  | 0, seen, bits, low, high => low ≤ high ∧ ∀ b, low ≤ b → b ≤ high →
    String.utf8EncodeChar (Char.ofNat (bits * 64 + (b.toNat - 0x80))) = seen ++ [b]
  | more + 1, seen, bits, low, high => low ≤ high ∧ ∀ b, low ≤ b → b ≤ high →
    Opens more (seen ++ [b]) (bits * 64 + (b.toNat - 0x80)) 0x80 0xBF

/-- Every beginning can be completed, by the least byte that is allowed. -/
theorem Opens.begins {more : Nat} {seen : List UInt8} {bits : Nat} {low high : UInt8}
    (h : Opens more seen bits low high) : Begins seen := by
  induction more generalizing seen bits low high with
  | zero => exact ⟨_, [low], (h.2 low (UInt8.le_refl low) h.1).symm⟩
  | succ more ih =>
    obtain ⟨c, rest, hrest⟩ := ih (h.2 low (UInt8.le_refl low) h.1)
    exact ⟨c, low :: rest, by rw [← hrest]; simp⟩

/-! ## The bytes of a character by their bits -/

theorem toNat_val_ofNat {n : Nat} (h : n.isValidChar) : (Char.ofNat n).val.toNat = n := by
  unfold Char.ofNat
  rw [dif_pos h]
  rfl

theorem encodeChar_one {n : Nat} (h : n < 0x80) :
    String.utf8EncodeChar (Char.ofNat n) = [UInt8.ofNat n] := by
  have hval := toNat_val_ofNat (n := n) (.inl (by omega))
  simp only [String.utf8EncodeChar, hval]
  rw [if_pos (by omega)]

theorem encodeChar_two {k j : Nat} (hmin : 2 ≤ k) (hk : k < 0x20) (hj : j < 0x40) :
    String.utf8EncodeChar (Char.ofNat (k * 64 + j)) =
      [UInt8.ofNat (k + 0xC0), UInt8.ofNat (j + 0x80)] := by
  have hval := toNat_val_ofNat (n := k * 64 + j) (.inl (by omega))
  have hfirst : (k * 64 + j) / 64 % 0x20 = k := by omega
  have hlast : (k * 64 + j) % 64 = j := by omega
  simp only [String.utf8EncodeChar, hval]
  rw [if_neg (by omega), if_pos (by omega), hfirst, hlast]

theorem encodeChar_three {k j i : Nat} (hk : k < 0x10) (hj : j < 0x40) (hi : i < 0x40)
    (hmin : k = 0 → 0x20 ≤ j) (hmax : k = 0xD → j < 0x20) :
    String.utf8EncodeChar (Char.ofNat ((k * 64 + j) * 64 + i)) =
      [UInt8.ofNat (k + 0xE0), UInt8.ofNat (j + 0x80), UInt8.ofNat (i + 0x80)] := by
  have hval := toNat_val_ofNat (n := (k * 64 + j) * 64 + i) (by unfold Nat.isValidChar; omega)
  have hfirst : ((k * 64 + j) * 64 + i) / 4096 % 0x10 = k := by omega
  have hsecond : ((k * 64 + j) * 64 + i) / 64 % 64 = j := by omega
  have hlast : ((k * 64 + j) * 64 + i) % 64 = i := by omega
  simp only [String.utf8EncodeChar, hval]
  rw [if_neg (by omega), if_neg (by omega), if_pos (by omega), hfirst, hsecond, hlast]

theorem encodeChar_four {k j i l : Nat} (hk : k < 5) (hj : j < 0x40) (hi : i < 0x40) (hl : l < 0x40)
    (hmin : k = 0 → 0x10 ≤ j) (hmax : k = 4 → j < 0x10) :
    String.utf8EncodeChar (Char.ofNat (((k * 64 + j) * 64 + i) * 64 + l)) =
      [UInt8.ofNat (k + 0xF0), UInt8.ofNat (j + 0x80), UInt8.ofNat (i + 0x80),
        UInt8.ofNat (l + 0x80)] := by
  have hval := toNat_val_ofNat (n := ((k * 64 + j) * 64 + i) * 64 + l)
    (by unfold Nat.isValidChar; omega)
  have hfirst : (((k * 64 + j) * 64 + i) * 64 + l) / 262144 % 8 = k := by omega
  have hsecond : (((k * 64 + j) * 64 + i) * 64 + l) / 4096 % 64 = j := by omega
  have hthird : (((k * 64 + j) * 64 + i) * 64 + l) / 64 % 64 = i := by omega
  have hlast : (((k * 64 + j) * 64 + i) * 64 + l) % 64 = l := by omega
  simp only [String.utf8EncodeChar, hval]
  rw [if_neg (by omega), if_neg (by omega), if_neg (by omega), hfirst, hsecond, hthird, hlast]

/-! ## Beginnings -/

/-- The six bits of a byte that continues a character. -/
theorem eq_continuation {b low high : UInt8} (hlow : low ≤ b) (hhigh : b ≤ high)
    (hleast : 0x80 ≤ low.toNat) (hmost : high.toNat ≤ 0xBF) :
    ∃ k < 0x40, b = UInt8.ofNat (k + 0x80) ∧ b.toNat - 0x80 = k ∧ low.toNat ≤ k + 0x80 ∧
      k + 0x80 ≤ high.toNat := by
  rw [UInt8.le_iff_toNat_le] at hlow hhigh
  refine ⟨b.toNat - 0x80, by omega, ?_, rfl, by omega, by omega⟩
  rw [Nat.sub_add_cancel (by omega), UInt8.ofNat_toNat]

theorem opens_two {k : Nat} (hmin : 2 ≤ k) (hk : k < 0x20) :
    Opens 0 [UInt8.ofNat (k + 0xC0)] k 0x80 0xBF := by
  refine ⟨by decide, fun b hlow hhigh => ?_⟩
  obtain ⟨j, hj, rfl, hbits, -⟩ := eq_continuation hlow hhigh (by decide) (by decide)
  rw [hbits, encodeChar_two hmin hk hj]
  rfl

theorem opens_three {k : Nat} {low high : UInt8} (hk : k < 0x10) (hrange : low ≤ high)
    (hleast : (if k = 0 then 0xA0 else 0x80) ≤ low.toNat)
    (hmost : high.toNat ≤ (if k = 0xD then 0x9F else 0xBF)) :
    Opens 1 [UInt8.ofNat (k + 0xE0)] k low high := by
  refine ⟨hrange, fun b hlow hhigh => ⟨by decide, fun b' hlow' hhigh' => ?_⟩⟩
  obtain ⟨j, hj, rfl, hbits, hjlow, hjhigh⟩ :=
    eq_continuation hlow hhigh (by split at hleast <;> omega) (by split at hmost <;> omega)
  obtain ⟨i, hi, rfl, hbits', -⟩ := eq_continuation hlow' hhigh' (by decide) (by decide)
  rw [hbits, hbits', encodeChar_three hk hj hi]
  · rfl
  · rintro rfl
    simp at hleast
    omega
  · rintro rfl
    simp at hmost
    omega

theorem opens_four {k : Nat} {low high : UInt8} (hk : k < 5) (hrange : low ≤ high)
    (hleast : (if k = 0 then 0x90 else 0x80) ≤ low.toNat)
    (hmost : high.toNat ≤ (if k = 4 then 0x8F else 0xBF)) :
    Opens 2 [UInt8.ofNat (k + 0xF0)] k low high := by
  refine ⟨hrange, fun b hlow hhigh => ⟨by decide, fun b' hlow' hhigh' =>
    ⟨by decide, fun b'' hlow'' hhigh'' => ?_⟩⟩⟩
  obtain ⟨j, hj, rfl, hbits, hjlow, hjhigh⟩ :=
    eq_continuation hlow hhigh (by split at hleast <;> omega) (by split at hmost <;> omega)
  obtain ⟨i, hi, rfl, hbits', -⟩ := eq_continuation hlow' hhigh' (by decide) (by decide)
  obtain ⟨l, hl, rfl, hbits'', -⟩ := eq_continuation hlow'' hhigh'' (by decide) (by decide)
  rw [hbits, hbits', hbits'', encodeChar_four hk hj hi hl]
  · rfl
  · rintro rfl
    simp at hleast
    omega
  · rintro rfl
    simp at hmost
    omega

theorem start_continuation : ∀ k < 0x42, start (UInt8.ofNat (k + 0x80)) = ([none], none) := by
  decide

theorem start_beyond : ∀ k < 0xB, start (UInt8.ofNat (k + 0xF5)) = ([none], none) := by
  decide

/-- A byte between two characters is a character, or begins one, or is malformed. -/
theorem start_cases (b : UInt8) :
    (∃ c, start b = ([some c], none) ∧ String.utf8EncodeChar c = [b]) ∨
    (∃ p, start b = ([], some p) ∧ Opens p.more [b] p.bits p.low p.high) ∨
    start b = ([none], none) := by
  obtain ⟨n, hn, rfl⟩ : ∃ n < 0x100, b = UInt8.ofNat n :=
    ⟨b.toNat, b.toNat_lt, (UInt8.ofNat_toNat).symm⟩
  by_cases hascii : n < 0x80
  · exact .inl ⟨_, start_ascii n hascii, encodeChar_one hascii⟩
  by_cases hlow : n < 0xC2
  · obtain ⟨k, rfl⟩ : ∃ k, n = k + 0x80 := ⟨n - 0x80, by omega⟩
    exact .inr (.inr (start_continuation k (by omega)))
  by_cases hhigh : 0xF5 ≤ n
  · obtain ⟨k, rfl⟩ : ∃ k, n = k + 0xF5 := ⟨n - 0xF5, by omega⟩
    exact .inr (.inr (start_beyond k (by omega)))
  refine .inr (.inl ?_)
  by_cases htwo : n < 0xE0
  · obtain ⟨k, rfl⟩ : ∃ k, n = k + 0xC0 := ⟨n - 0xC0, by omega⟩
    exact ⟨_, start_two k (by omega) (by omega), opens_two (by omega) (by omega)⟩
  by_cases hthree : n < 0xF0
  · obtain ⟨k, rfl⟩ : ∃ k, n = k + 0xE0 := ⟨n - 0xE0, by omega⟩
    refine ⟨_, start_three k (by omega), opens_three (by omega) ?_ ?_ ?_⟩
    · dsimp only
      split
      · next h => subst h; decide
      · split <;> decide
    all_goals (dsimp only; split <;> decide)
  · obtain ⟨k, rfl⟩ : ∃ k, n = k + 0xF0 := ⟨n - 0xF0, by omega⟩
    refine ⟨_, start_four k (by omega), opens_four (by omega) ?_ ?_ ?_⟩
    · dsimp only
      split
      · next h => subst h; decide
      · split <;> decide
    all_goals (dsimp only; split <;> decide)

/-! ## The first piece -/

theorem scan_cons (b : UInt8) (rest : List UInt8) :
    scan (b :: rest) = (start b).1 ++ scanFrom (start b).2 rest :=
  scanFrom_start b rest

theorem scan_encodeChar_append (c : Char) (rest : List UInt8) :
    scan (String.utf8EncodeChar c ++ rest) = some c :: scan rest :=
  scanFrom_encodeChar c rest

/-- A piece that the decoder reports as malformed, whatever follows its next byte, is malformed. -/
theorem Malformed.of_scan {piece rest : List UInt8} (hne : piece ≠ [])
    (hbegins : Begins piece ∨ piece.length = 1)
    (hscan : ∀ tail, tail.head? = rest.head? → ∃ pieces, scan (piece ++ tail) = none :: pieces) :
    Malformed piece rest where
  ne_nil := hne
  begins := hbegins
  noCharacter := by
    rintro c ⟨tail, htail⟩
    obtain ⟨pieces, hpieces⟩ := hscan rest rfl
    rw [← htail, scan_encodeChar_append] at hpieces
    cases hpieces
  longest := by
    rintro longer hprefix ⟨c, behind, hc⟩
    refine Nat.le_of_not_lt fun hlonger => ?_
    -- The longer beginning contains the next byte, which the decoder has refused.
    obtain ⟨more, rfl⟩ : piece <+: longer :=
      List.prefix_of_prefix_length_le (List.prefix_append piece rest) hprefix (by omega)
    obtain ⟨left, hleft⟩ := (List.prefix_append_right_inj piece).mp hprefix
    have hhead : (more ++ behind).head? = rest.head? := by
      cases more with
      | nil => simp at hlonger
      | cons b more => rw [← hleft]; rfl
    obtain ⟨pieces, hpieces⟩ := hscan (more ++ behind) hhead
    have hcharacter := scan_encodeChar_append c []
    rw [List.append_nil, ← hc, List.append_assoc, hpieces] at hcharacter
    cases hcharacter

/-- The decoder takes the first piece off, then starts anew. -/
inductive Front (bytes : List UInt8) : Prop where
  | character (c : Char) (rest : List UInt8) (hbytes : bytes = String.utf8EncodeChar c ++ rest)
    (hscan : scan bytes = some c :: scan rest)
  | malformed (piece rest : List UInt8) (hbytes : bytes = piece ++ rest)
    (hpiece : Malformed piece rest) (hscan : scan bytes = none :: scan rest)

/-- From inside a character on. -/
theorem front_of_opens {p : Pending} {seen rest : List UInt8} (hne : seen ≠ [])
    (hopens : Opens p.more seen p.bits p.low p.high)
    (hscan : ∀ rest, scan (seen ++ rest) = scanFrom (some p) rest) : Front (seen ++ rest) := by
  induction rest generalizing p seen with
  | nil =>
    refine .malformed seen [] rfl (.of_scan hne (.inl hopens.begins) fun tail htail => ?_)
      (hscan [])
    obtain rfl : tail = [] := by simpa using htail
    exact ⟨[], hscan []⟩
  | cons b rest ih =>
    obtain ⟨bits, more, low, high⟩ := p
    by_cases haccept : (low ≤ b && b ≤ high) = true
    · have hb : low ≤ b ∧ b ≤ high := by simpa using haccept
      cases more with
      | zero =>
        have hbytes : seen ++ b :: rest = String.utf8EncodeChar
            (Char.ofNat (bits * 64 + (b.toNat - 0x80))) ++ rest := by
          rw [hopens.2 b hb.1 hb.2]
          simp
        exact .character _ rest hbytes (by rw [hbytes, scan_encodeChar_append])
      | succ more =>
        have hseen : seen ++ b :: rest = (seen ++ [b]) ++ rest := by simp
        rw [hseen]
        refine ih (p := ⟨_, more, 0x80, 0xBF⟩) (by simp) (hopens.2 b hb.1 hb.2) fun tail => ?_
        rw [List.append_assoc, List.singleton_append, hscan, scanFrom_cons]
        simp only [step, haccept, if_true]
        rfl
    · have hrefuse : ∀ tail, scan (seen ++ b :: tail) = none :: scan (b :: tail) := by
        intro tail
        rw [hscan, scanFrom_cons, scan_cons]
        simp only [step, haccept]
        rfl
      refine .malformed seen (b :: rest) rfl
        (.of_scan hne (.inl hopens.begins) fun tail htail => ?_) (hrefuse rest)
      obtain ⟨tail, rfl⟩ : ∃ t, tail = b :: t := by
        cases tail with
        | nil => simp at htail
        | cons b' t => exact ⟨t, by simpa using htail⟩
      exact ⟨_, hrefuse tail⟩

theorem scan_front (b : UInt8) (rest : List UInt8) : Front (b :: rest) := by
  obtain ⟨c, hstart, hc⟩ | ⟨p, hstart, hopens⟩ | hstart := start_cases b
  · have hbytes : b :: rest = String.utf8EncodeChar c ++ rest := by rw [hc]; rfl
    exact .character c rest hbytes (by rw [hbytes, scan_encodeChar_append])
  · refine front_of_opens (List.cons_ne_nil b []) hopens fun tail => ?_
    show scan (b :: tail) = _
    rw [scan_cons, hstart]
    rfl
  · have hscan : ∀ tail, scan (b :: tail) = none :: scan tail := by
      intro tail
      rw [scan_cons, hstart]
      rfl
    exact .malformed [b] rest rfl (.of_scan (by simp) (.inr rfl) fun tail _ => ⟨_, hscan tail⟩)
      (hscan rest)

/-! ## All pieces -/

theorem encodeChar_ne_nil (c : Char) : String.utf8EncodeChar c ≠ [] := by
  unfold String.utf8EncodeChar
  simp only
  split
  · simp
  split
  · simp
  split <;> simp

theorem pieces_scan (bytes : List UInt8) : Pieces bytes (scan bytes) := by
  generalize hn : bytes.length = n
  induction n using Nat.strongRecOn generalizing bytes with
  | ind n ih =>
    cases bytes with
    | nil => exact .nil
    | cons b rest =>
      cases scan_front b rest with
      | character c behind hbytes hscan =>
        have hlength := List.length_pos_iff.mpr (encodeChar_ne_nil c)
        rw [hscan, hbytes]
        refine .character c (ih behind.length ?_ behind rfl)
        rw [← hn, hbytes, List.length_append]
        omega
      | malformed piece behind hbytes hpiece hscan =>
        have hlength := List.length_pos_iff.mpr hpiece.ne_nil
        rw [hscan, hbytes]
        refine .malformed hpiece (ih behind.length ?_ behind rfl)
        rw [← hn, hbytes, List.length_append]
        omega

/-- The malformed piece at some point is at most as long as any other there. -/
theorem Malformed.length_le {piece rest piece' rest' : List UInt8} (h : Malformed piece rest)
    (h' : Malformed piece' rest') (heq : piece ++ rest = piece' ++ rest') :
    piece.length ≤ piece'.length := by
  rcases h.begins with hbegins | hsingle
  · exact h'.longest (heq ▸ List.prefix_append piece rest) hbegins
  · rw [hsingle]
    exact List.length_pos_iff.mpr h'.ne_nil

theorem scan_malformed {piece rest : List UInt8} (h : Malformed piece rest) :
    scan (piece ++ rest) = none :: scan rest := by
  obtain ⟨b, behind, hbytes⟩ := List.exists_cons_of_ne_nil
    (List.append_ne_nil_of_left_ne_nil h.ne_nil rest)
  have hfront := scan_front b behind
  rw [← hbytes] at hfront
  cases hfront with
  | character c rest' heq hscan =>
    exact absurd ⟨rest', heq.symm⟩ (h.noCharacter c)
  | malformed piece' rest' heq hpiece hscan =>
    have hlength : piece.length = piece'.length :=
      Nat.le_antisymm (h.length_le hpiece heq) (hpiece.length_le h heq.symm)
    rw [hscan, (List.append_inj heq hlength).2]

theorem pieces_iff {bytes : List UInt8} {pieces : List (Option Char)} :
    Pieces bytes pieces ↔ pieces = scan bytes := by
  constructor
  · intro h
    induction h with
    | nil => rfl
    | character c h ih => rw [ih, scan_encodeChar_append]
    | malformed hpiece h ih => rw [ih, scan_malformed hpiece]
  · rintro rfl
    exact pieces_scan bytes

/-- Lossy decoding puts one U+FFFD for each malformed piece. -/
theorem lossy_iff {bytes : List UInt8} {text : String} :
    Lossy bytes text ↔ text = decodeLossy bytes := by
  simp only [Lossy, pieces_iff, exists_eq_left]
  rfl

end DebugConsole.Utf8
