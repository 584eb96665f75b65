import DebugConsole.Text.Utf8

/-!
# UTF-8, there and back

- **Bytes** (`start_ascii`, `start_two`, ..., `step_last`): what the decoder does with the bytes
  of a character, by the number of bytes it takes.
- **Characters** (`scanFrom_encodeChar`): the bytes of a character are read as that character,
  whatever follows.
- **Texts** (`decode?_encode`): an encoded text is read back. A zero byte stands for a zero character
  only (`zero_not_mem_encode`).
-/

namespace DebugConsole.Utf8

/-! ## Bytes -/

theorem start_ascii : ∀ n < 0x80, start (UInt8.ofNat n) = ([some (Char.ofNat n)], none) := by
  decide

theorem start_two : ∀ k < 0x20, 2 ≤ k →
    start (UInt8.ofNat (k + 0xC0)) = ([], some ⟨k, 0, 0x80, 0xBF⟩) := by
  decide

theorem start_three : ∀ k < 0x10, start (UInt8.ofNat (k + 0xE0)) =
    ([], some ⟨k, 1, if k = 0 then 0xA0 else 0x80, if k = 0xD then 0x9F else 0xBF⟩) := by
  decide

theorem start_four : ∀ k < 5, start (UInt8.ofNat (k + 0xF0)) =
    ([], some ⟨k, 2, if k = 0 then 0x90 else 0x80, if k = 4 then 0x8F else 0xBF⟩) := by
  decide

theorem toNat_continuation {k : Nat} (hk : k < 0x40) :
    (UInt8.ofNat (k + 0x80)).toNat = k + 0x80 := by
  rw [UInt8.toNat_ofNat']
  omega

section Continuation

variable {bits more k : Nat} {low high : UInt8} {rest : List UInt8}

/-- A byte that continues a character. -/
theorem continues (hk : k < 0x40) (hlow : low.toNat ≤ k + 0x80) (hhigh : k + 0x80 ≤ high.toNat) :
    (low ≤ UInt8.ofNat (k + 0x80) && UInt8.ofNat (k + 0x80) ≤ high) = true := by
  simp only [UInt8.le_iff_toNat_le, toNat_continuation hk, Bool.and_eq_true, decide_eq_true_eq]
  exact ⟨hlow, hhigh⟩

theorem step_last (hk : k < 0x40) (hlow : low.toNat ≤ k + 0x80) (hhigh : k + 0x80 ≤ high.toNat) :
    step (some ⟨bits, 0, low, high⟩) (UInt8.ofNat (k + 0x80)) =
      ([some (Char.ofNat (bits * 64 + k))], none) := by
  simp only [step, continues hk hlow hhigh, if_true, toNat_continuation hk, Nat.add_sub_cancel]

theorem step_middle (hk : k < 0x40) (hlow : low.toNat ≤ k + 0x80) (hhigh : k + 0x80 ≤ high.toNat) :
    step (some ⟨bits, more + 1, low, high⟩) (UInt8.ofNat (k + 0x80)) =
      ([], some ⟨bits * 64 + k, more, 0x80, 0xBF⟩) := by
  simp only [step, continues hk hlow hhigh, if_true, toNat_continuation hk, Nat.add_sub_cancel]

/-! ## Characters -/

theorem scanFrom_cons (pending : Option Pending) (b : UInt8) (rest : List UInt8) :
    scanFrom pending (b :: rest) = (step pending b).1 ++ scanFrom (step pending b).2 rest := by
  cases pending <;> rfl

theorem scanFrom_start (b : UInt8) (rest : List UInt8) :
    scanFrom none (b :: rest) = (start b).1 ++ scanFrom (start b).2 rest :=
  scanFrom_cons none b rest

/-- The last byte of a character. -/
theorem scanFrom_last (hk : k < 0x40) (hlow : low.toNat ≤ k + 0x80)
    (hhigh : k + 0x80 ≤ high.toNat) :
    scanFrom (some ⟨bits, 0, low, high⟩) (UInt8.ofNat (k + 0x80) :: rest) =
      some (Char.ofNat (bits * 64 + k)) :: scanFrom none rest := by
  rw [scanFrom_cons, step_last hk hlow hhigh]
  rfl

/-- A byte in the middle of a character. -/
theorem scanFrom_middle (hk : k < 0x40) (hlow : low.toNat ≤ k + 0x80)
    (hhigh : k + 0x80 ≤ high.toNat) :
    scanFrom (some ⟨bits, more + 1, low, high⟩) (UInt8.ofNat (k + 0x80) :: rest) =
      scanFrom (some ⟨bits * 64 + k, more, 0x80, 0xBF⟩) rest := by
  rw [scanFrom_cons, step_middle hk hlow hhigh]
  rfl

end Continuation

theorem toNat_lt (c : Char) :
    c.val.toNat < 0xD800 ∨ 0xDFFF < c.val.toNat ∧ c.val.toNat < 0x110000 :=
  c.valid

/-- The bytes of a character are read as that character. -/
theorem scanFrom_encodeChar (c : Char) (rest : List UInt8) :
    scanFrom none (String.utf8EncodeChar c ++ rest) = some c :: scanFrom none rest := by
  have hvalid := toNat_lt c
  have hchar : Char.ofNat c.val.toNat = c := Char.ofNat_toNat c
  unfold String.utf8EncodeChar
  generalize c.val.toNat = n at hvalid hchar
  simp only
  split
  · rw [List.cons_append, scanFrom_start, start_ascii n (by omega), hchar]
    rfl
  split
  · have hbits : n / 64 % 0x20 * 64 + n % 0x40 = n := by omega
    rw [List.cons_append, scanFrom_start, start_two _ (by omega) (by omega)]
    show scanFrom (some _) _ = _
    rw [List.cons_append, scanFrom_last (by omega) (by simp) (by simp; omega), hbits, hchar]
    rfl
  split
  · have hbits : (n / 4096 % 0x10 * 64 + n / 64 % 0x40) * 64 + n % 0x40 = n := by omega
    have hlow : (if n / 4096 % 0x10 = 0 then (0xA0 : UInt8) else 0x80).toNat ≤
        n / 64 % 0x40 + 0x80 := by
      split
      · simp
        omega
      · simp
    have hhigh : n / 64 % 0x40 + 0x80 ≤
        (if n / 4096 % 0x10 = 0xD then (0x9F : UInt8) else 0xBF).toNat := by
      split
      · simp
        omega
      · simp
        omega
    rw [List.cons_append, scanFrom_start, start_three _ (by omega)]
    show scanFrom (some _) _ = _
    rw [List.cons_append, scanFrom_middle (by omega) hlow hhigh, List.cons_append,
      scanFrom_last (by omega) (by simp) (by simp; omega), hbits, hchar]
    rfl
  · have hbits : ((n / 262144 % 0x08 * 64 + n / 4096 % 0x40) * 64 + n / 64 % 0x40) * 64 +
        n % 0x40 = n := by omega
    have hlow : (if n / 262144 % 0x08 = 0 then (0x90 : UInt8) else 0x80).toNat ≤
        n / 4096 % 0x40 + 0x80 := by
      split
      · simp
        omega
      · simp
    have hhigh : n / 4096 % 0x40 + 0x80 ≤
        (if n / 262144 % 0x08 = 4 then (0x8F : UInt8) else 0xBF).toNat := by
      split
      · simp
        omega
      · simp
        omega
    rw [List.cons_append, scanFrom_start, start_four _ (by omega)]
    show scanFrom (some _) _ = _
    rw [List.cons_append, scanFrom_middle (by omega) hlow hhigh, List.cons_append,
      scanFrom_middle (by omega) (by simp) (by simp; omega), List.cons_append,
      scanFrom_last (by omega) (by simp) (by simp; omega), hbits, hchar]
    rfl

/-! ## Texts -/

theorem scan_encode (s : String) : scan (encode s) = s.toList.map some := by
  unfold scan encode
  induction s.toList with
  | nil => rfl
  | cons c rest ih => rw [List.flatMap_cons, scanFrom_encodeChar, ih, List.map_cons]

theorem mapM_id_map_some {α : Type} (items : List α) : (items.map some).mapM id = some items := by
  induction items with
  | nil => rfl
  | cons item rest ih => simp [List.mapM_cons, ih]

/-- An encoded text is read back. -/
theorem decode?_encode (s : String) : decode? (encode s) = some s := by
  unfold decode?
  rw [scan_encode, mapM_id_map_some, Option.map_some, String.ofList_toList]

/-- The bytes of a character beyond ASCII are beyond ASCII too. -/
theorem le_of_mem_encodeChar {c : Char} (h : 0x80 ≤ c.val.toNat) :
    ∀ b ∈ String.utf8EncodeChar c, 0x80 ≤ b.toNat := by
  unfold String.utf8EncodeChar
  generalize c.val.toNat = n at h
  simp only
  rw [if_neg (by omega)]
  split
  · simp only [List.forall_mem_cons, UInt8.toNat_ofNat']
    exact ⟨by omega, by omega, by simp⟩
  split
  · simp only [List.forall_mem_cons, UInt8.toNat_ofNat']
    exact ⟨by omega, by omega, by omega, by simp⟩
  · simp only [List.forall_mem_cons, UInt8.toNat_ofNat']
    exact ⟨by omega, by omega, by omega, by omega, by simp⟩

theorem eq_zero_of_mem_encodeChar {c : Char} (h : 0 ∈ String.utf8EncodeChar c) : c = '\x00' := by
  have hchar : Char.ofNat c.val.toNat = c := Char.ofNat_toNat c
  by_cases hascii : c.val.toNat < 0x80
  · unfold String.utf8EncodeChar at h
    simp only at h
    rw [if_pos (by omega), List.mem_singleton] at h
    have hzero : c.val.toNat = 0 := by
      have hbyte : (UInt8.ofNat c.val.toNat).toNat = 0 := by rw [← h]; rfl
      rw [UInt8.toNat_ofNat'] at hbyte
      omega
    rw [← hchar, hzero]
  · have := le_of_mem_encodeChar (by omega) 0 h
    simp at this

/-- A zero byte stands for a zero character only. -/
theorem zero_not_mem_encode {s : String} (h : '\x00' ∉ s.toList) : 0 ∉ encode s := by
  unfold encode
  rw [List.mem_flatMap]
  rintro ⟨c, hc, hzero⟩
  exact h (eq_zero_of_mem_encodeChar hzero ▸ hc)

end DebugConsole.Utf8
