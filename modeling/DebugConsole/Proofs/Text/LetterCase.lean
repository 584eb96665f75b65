import Mathlib.Data.List.Forall2
import Mathlib.Tactic.IntervalCases
import DebugConsole.Proofs.Text.Runs
import DebugConsole.Text.Case

/-!
# Letter case

What does not depend on the case of ASCII letters, and texts that stand at the same place of two
lines which differ in letter case only.

- **Characters** (`forall_toUpper`): only the small letters change, so a property of a character and
  its capital is checked for these.
- **Names** (`sameName_iff`, `sameName_iff_lower`): two texts that differ in letter case only,
  character by character, in upper case or in lower case.
- **Numbers** (`readSigned_congr`, `readHex32_congr`): the digits above nine count in either case.
- **Places** (`SamePlace`): parts of two lines that begin and end at the same positions.
-/

namespace DebugConsole

/-! ## Characters -/

/-- What holds of every small letter and its capital, and of every other character and itself, holds
of every character and what it is in upper case. -/
theorem forall_toUpper {P : Char → Char → Prop} (hself : ∀ c : Char, c.isLower = false → P c c)
    (hletter : ∀ n < 26, P (Char.ofNat (97 + n)) (Char.ofNat (65 + n))) (c : Char) :
    P c c.toUpper := by
  have hcapital : ∀ n < 26, (Char.ofNat (97 + n)).toUpper = Char.ofNat (65 + n) := by decide
  by_cases hsmall : 'a'.val ≤ c.val ∧ c.val ≤ 'z'.val
  · have hlow : 97 ≤ c.toNat := UInt32.le_iff_toNat_le.mp hsmall.1
    have hhigh : c.toNat ≤ 122 := UInt32.le_iff_toNat_le.mp hsmall.2
    have hc : c = Char.ofNat (97 + (c.toNat - 97)) := by
      rw [Nat.add_sub_cancel' hlow, Char.ofNat_toNat]
    have hn : c.toNat - 97 < 26 := by omega
    rw [hc, hcapital _ hn]
    exact hletter _ hn
  · have hc : c.toUpper = c := dif_neg hsmall
    have hlower : c.isLower = false := by
      show (decide ('a'.val ≤ c.val) && decide (c.val ≤ 'z'.val)) = false
      simpa using hsmall
    rw [hc]
    exact hself c hlower

theorem isBlank_toUpper (c : Char) : isBlank c.toUpper = isBlank c :=
  forall_toUpper (P := fun c d => isBlank d = isBlank c) (fun _ _ => rfl) (by decide) c

theorem digitValue?_toUpper (base : Nat) (c : Char) :
    digitValue? base c.toUpper = digitValue? base c := by
  refine forall_toUpper (P := fun c d => digitValue? base d = digitValue? base c) (fun _ _ => rfl)
    (fun n hn => ?_) c
  interval_cases n <;> rfl

-- Batteries has the next two lemmas in a file that only the whole of Mathlib imports.

theorem toLower_toUpper (c : Char) : c.toUpper.toLower = c.toLower :=
  forall_toUpper (P := fun c d => d.toLower = c.toLower) (fun _ _ => rfl) (by decide) c

theorem toUpper_toLower (c : Char) : c.toLower.toUpper = c.toUpper := by
  have hcapitals : ∀ n < 91, (Char.ofNat n).toLower.toUpper = (Char.ofNat n).toUpper := by decide
  by_cases hcapital : 'A'.val ≤ c.val ∧ c.val ≤ 'Z'.val
  · have hhigh : c.toNat ≤ 90 := UInt32.le_iff_toNat_le.mp hcapital.2
    have hc := hcapitals c.toNat (by omega)
    rwa [Char.ofNat_toNat] at hc
  · have hc : c.toLower = c := dif_neg hcapital
    rw [hc]

/-- A character that is no letter is the upper case of itself only. -/
theorem toUpper_eq_iff {k : Char} (hk : k.isAlpha = false) (c : Char) : c.toUpper = k ↔ c = k := by
  refine forall_toUpper (P := fun c d => d = k ↔ c = k) (fun _ _ => Iff.rfl) (fun n hn => ?_) c
  have hletters : ∀ n < 26, (Char.ofNat (97 + n)).isAlpha = true ∧
      (Char.ofNat (65 + n)).isAlpha = true := by decide
  constructor
  · rintro rfl
    rw [(hletters n hn).2] at hk
    cases hk
  · rintro rfl
    rw [(hletters n hn).1] at hk
    cases hk

theorem mem_map_toUpper_iff {k : Char} (hk : k.isAlpha = false) {cs : List Char} :
    k ∈ cs.map Char.toUpper ↔ k ∈ cs := by
  simp [toUpper_eq_iff hk]

theorem toUpper_eq_x_iff (c : Char) : c.toUpper = 'X' ↔ c = 'x' ∨ c = 'X' := by
  refine forall_toUpper (P := fun c d => d = 'X' ↔ c = 'x' ∨ c = 'X') (fun c hc => ?_)
    (by decide) c
  have hne : c ≠ 'x' := by
    rintro rfl
    cases hc
  simp [hne]

namespace Text

/-! ## Names -/

theorem sameName_iff {s t : String} :
    sameName s t = true ↔ s.toList.map Char.toUpper = t.toList.map Char.toUpper := by
  simp [sameName, upper, String.ofList_inj]

/-- Names are compared in upper case, but sorted and listed in lower case. Both cases tell the same
texts apart. -/
theorem sameName_iff_lower {s t : String} : sameName s t = true ↔ lower s = lower t := by
  have hlower (cs : List Char) : (cs.map Char.toUpper).map Char.toLower = cs.map Char.toLower := by
    rw [List.map_map]
    exact List.map_congr_left fun c _ => toLower_toUpper c
  have hupper (cs : List Char) : (cs.map Char.toLower).map Char.toUpper = cs.map Char.toUpper := by
    rw [List.map_map]
    exact List.map_congr_left fun c _ => toUpper_toLower c
  rw [sameName_iff, lower, lower, String.ofList_inj]
  constructor
  · intro h
    rw [← hlower s.toList, h, hlower]
  · intro h
    rw [← hupper s.toList, h, hupper]

theorem sameName_comm (s t : String) : sameName s t = sameName t s := by
  rw [Bool.eq_iff_iff, sameName_iff, sameName_iff, eq_comm]

theorem sameName_congr {s t : String} (h : sameName s t = true) (u : String) :
    sameName s u = sameName t u := by
  rw [Bool.eq_iff_iff, sameName_iff, sameName_iff, sameName_iff.mp h]

theorem isBlankLine_congr {s t : String} (h : sameName s t = true) :
    isBlankLine s = isBlankLine t := by
  have hupper (cs : List Char) : (cs.map Char.toUpper).all isBlank = cs.all isBlank := by
    simp [List.all_map, Function.comp_def, isBlank_toUpper]
  unfold isBlankLine
  rw [← hupper s.toList, ← hupper t.toList, sameName_iff.mp h]

/-! ## Numbers -/

theorem readDigits_toUpper (base limit acc : Nat) (cs : List Char) :
    readDigits base limit acc (cs.map Char.toUpper) = readDigits base limit acc cs := by
  induction cs generalizing acc with
  | nil => rfl
  | cons c rest ih => simp only [List.map_cons, readDigits, digitValue?_toUpper, ih]

theorem readDigits_congr {cs cs' : List Char} (h : cs.map Char.toUpper = cs'.map Char.toUpper)
    (base limit acc : Nat) : readDigits base limit acc cs = readDigits base limit acc cs' := by
  rw [← readDigits_toUpper, h, readDigits_toUpper]

theorem isEmpty_congr {cs cs' : List Char} (h : cs.map Char.toUpper = cs'.map Char.toUpper) :
    cs.isEmpty = cs'.isEmpty := by
  rw [← List.isEmpty_map (f := Char.toUpper), h, List.isEmpty_map]

theorem readNonempty_toUpper (base limit : Nat) (cs : List Char) :
    readNonempty base limit (cs.map Char.toUpper) = readNonempty base limit cs := by
  rw [readNonempty, readNonempty, List.isEmpty_map, readDigits_toUpper]

theorem readSigned_toUpper (limit : Nat) (cs : List Char) :
    readSigned limit (.ofList (cs.map Char.toUpper)) = readSigned limit (.ofList cs) := by
  cases cs with
  | nil => rfl
  | cons c rest =>
    have hplus : c.toUpper = '+' ↔ c = '+' := toUpper_eq_iff (by decide) c
    have hminus : c.toUpper = '-' ↔ c = '-' := toUpper_eq_iff (by decide) c
    by_cases hc : c = '+'
    · subst hc
      simp [readSigned, readNonempty_toUpper]
    by_cases hc' : c = '-'
    · subst hc'
      simp [readSigned, readNonempty_toUpper]
    · have hdigits := readDigits_toUpper 10 limit 0 (c :: rest)
      rw [List.map_cons] at hdigits
      simp [readSigned, hplus, hminus, hc, hc', hdigits]

theorem readSigned_congr {cs cs' : List Char} (h : cs.map Char.toUpper = cs'.map Char.toUpper)
    (limit : Nat) : readSigned limit (.ofList cs) = readSigned limit (.ofList cs') := by
  rw [← readSigned_toUpper, h, readSigned_toUpper]

theorem readHex32_congr {cs cs' : List Char} (h : cs.map Char.toUpper = cs'.map Char.toUpper) :
    readHex32 cs = readHex32 cs' := by
  rw [readHex32, readHex32, isEmpty_congr h, readDigits_congr h]

/-! ## Places -/

/-- The parts begin and end at the same positions of the two lines. -/
def SamePlace (line line' part part' : List Char) : Prop :=
  ∃ before before' after after', line = before ++ part ++ after ∧
    line' = before' ++ part' ++ after' ∧ before.length = before'.length ∧
      part.length = part'.length

namespace SamePlace

variable {line line' part part' inner inner' : List Char}

theorem whole (h : line.length = line'.length) : SamePlace line line' line line' :=
  ⟨[], [], [], [], by simp, by simp, rfl, h⟩

theorem nil : SamePlace line line' [] [] :=
  ⟨[], [], line, line', rfl, rfl, rfl, rfl⟩

theorem length_eq (h : SamePlace line line' part part') : part.length = part'.length := by
  obtain ⟨_, _, _, _, _, _, _, hpart⟩ := h
  exact hpart

theorem append_left (h : SamePlace line line' part part') {before before' : List Char}
    (hlength : before.length = before'.length) :
    SamePlace (before ++ line) (before' ++ line') part part' := by
  obtain ⟨b, b', a, a', rfl, rfl, hb, hpart⟩ := h
  exact ⟨before ++ b, before' ++ b', a, a', by simp, by simp, by simp [hlength, hb], hpart⟩

theorem cons (h : SamePlace line line' part part') (c c' : Char) :
    SamePlace (c :: line) (c' :: line') part part' := by
  have hlength : [c].length = [c'].length := rfl
  exact h.append_left hlength

theorem append_right (h : SamePlace line line' part part') (after after' : List Char) :
    SamePlace (line ++ after) (line' ++ after') part part' := by
  obtain ⟨b, b', a, a', rfl, rfl, hb, hpart⟩ := h
  exact ⟨b, b', a ++ after, a' ++ after', by simp, by simp, hb, hpart⟩

/-- A part of a part is at the same place as well. -/
theorem trans (h : SamePlace line line' part part') (hinner : SamePlace part part' inner inner') :
    SamePlace line line' inner inner' := by
  obtain ⟨b, b', a, a', rfl, rfl, hb, -⟩ := h
  exact (hinner.append_left hb).append_right a a'

/-- At the same place of lines that differ in letter case only, the parts do so too. -/
theorem map_toUpper (h : SamePlace line line' part part')
    (hline : line.map Char.toUpper = line'.map Char.toUpper) :
    part.map Char.toUpper = part'.map Char.toUpper := by
  obtain ⟨b, b', a, a', rfl, rfl, hb, hpart⟩ := h
  simp only [List.map_append, List.append_assoc] at hline
  have hrest := List.append_inj_right hline (by simpa using hb)
  exact List.append_inj_left hrest (by simpa using hpart)

end SamePlace

/-- Lines that differ in letter case only have their runs at the same places, if no letter
separates them. -/
theorem Parted.samePlace {separates : Char → Bool}
    (hseparates : ∀ c : Char, separates c.toUpper = separates c) {cs cs' : List Char}
    {tokens : List String} (h : Parted separates cs tokens)
    (hcase : cs.map Char.toUpper = cs'.map Char.toUpper) :
    ∃ tokens', Parted separates cs' tokens' ∧
      List.Forall₂ (fun t t' => SamePlace cs cs' t.toList t'.toList) tokens tokens' := by
  have hseparator {c c' : Char} (hc : c.toUpper = c'.toUpper) : separates c = separates c' := by
    rw [← hseparates c, hc, hseparates]
  have htoken {token token' : List Char} (hupper : token.map Char.toUpper = token'.map Char.toUpper)
      (hnone : ∀ c ∈ token, separates c = false) : ∀ c ∈ token', separates c = false := by
    have hmap (t : List Char) : (∀ c ∈ t.map Char.toUpper, separates c = false) ↔
        ∀ c ∈ t, separates c = false := by
      simp [hseparates]
    rwa [← hmap, ← hupper, hmap]
  induction h generalizing cs' with
  | nil =>
    obtain rfl := List.map_eq_nil_iff.mp hcase.symm
    exact ⟨[], .nil, .nil⟩
  | @separator c rest tokens hc _ ih =>
    obtain ⟨c', rest', rfl, hc', hrest⟩ := List.map_eq_cons_iff.mp hcase.symm
    obtain ⟨tokens', hparted, hplaces⟩ := ih hrest.symm
    refine ⟨tokens', .separator (hseparator hc' ▸ hc) hparted, hplaces.imp fun t t' ht => ?_⟩
    exact ht.cons c c'
  | @last token hne hnone =>
    have hlength : token.length = cs'.length := by simpa using congrArg List.length hcase
    refine ⟨[.ofList cs'], .last ?_ (htoken hcase hnone), .cons ?_ .nil⟩
    · rintro rfl
      exact hne (List.length_eq_zero_iff.mp hlength)
    · simpa using SamePlace.whole hlength
  | @run token c rest tokens hne hnone hc _ ih =>
    rw [List.map_append, List.map_cons] at hcase
    obtain ⟨token', tail', rfl, htoken', htail⟩ := List.map_eq_append_iff.mp hcase.symm
    obtain ⟨c', rest', rfl, hc', hrest⟩ := List.map_eq_cons_iff.mp htail
    obtain ⟨tokens', hparted, hplaces⟩ := ih hrest.symm
    have hlength : token.length = token'.length := by
      simpa using congrArg List.length htoken'.symm
    refine ⟨.ofList token' :: tokens', ?_, .cons ?_ (hplaces.imp fun t t' ht => ?_)⟩
    · refine .run ?_ (htoken htoken'.symm hnone) (hseparator hc' ▸ hc) hparted
      rintro rfl
      exact hne (List.length_eq_zero_iff.mp hlength)
    · simpa using (SamePlace.whole hlength).append_right (c :: rest) (c' :: rest')
    · exact (ht.cons c c').append_left hlength

theorem words_samePlace {line line' : String} (h : sameName line line' = true) :
    List.Forall₂ (fun w w' => SamePlace line.toList line'.toList w.toList w'.toList) (words line)
      (words line') := by
  have hspace (c : Char) : (c.toUpper == ' ') = (c == ' ') := by
    rw [Bool.eq_iff_iff, beq_iff_eq, beq_iff_eq, toUpper_eq_iff (by decide)]
  have hwords : Parted (· == ' ') line.toList (words line) := runs_iff.mp rfl
  obtain ⟨tokens', hwords', hplaces⟩ := hwords.samePlace hspace (sameName_iff.mp h)
  rwa [← runs_iff.mpr hwords'] at hplaces

end Text

end DebugConsole
