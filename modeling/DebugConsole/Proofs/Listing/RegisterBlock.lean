import DebugConsole.Listing
import DebugConsole.Proofs.Command.OperandLemmas
import DebugConsole.Proofs.Text.Runs

/-!
# The register block

The block shows every register and the nine flags, and nothing else of a snapshot
(`register_block_exact`).

- **Digits** (`Registers.digits`): a register in as many digits as it is wide, which are read back
  as an operand.
- **Words** (`words_registers`): the words of the block are a label and its digits for each
  register, then the letters of the set flags.
- **Labels** (`valueOf?_registers`): the word behind a register's label is that register's.
- **Flags** (`has_eq_of_letters`): the letters tell the nine flags apart.
-/

namespace DebugConsole

/-! ## Digits -/

/-- The value of a register in upper-case hexadecimal, as wide as the register. -/
def Registers.digits (r : Registers) (register : Register) : String :=
  Text.hex (if register.isSegment then 4 else 8) (r.get register).toNat

namespace Registers

variable (r : Registers)

/-- A segment register holds a selector, widened with zeros. -/
theorem get_segment {register : Register} (h : register.isSegment = true) :
    r.get register = (Operand.selector r register).toUInt32 := by
  cases register with
  | es | cs | ss | ds | fs | gs => simp [Operand.selector, get]
  | _ => cases h

theorem digits_segment {register : Register} (h : register.isSegment = true) :
    r.digits register = Text.hex 4 (Operand.selector r register).toNat := by
  rw [digits, if_pos h, get_segment r h, UInt16.toNat_toUInt32]

theorem digits_long {register : Register} (h : register.isSegment = false) :
    r.digits register = Text.hex 8 (r.get register).toNat := by
  rw [digits, if_neg (by simp [h])]

theorem readHex32_digits (register : Register) :
    Text.readHex32 (r.digits register).toList = some (r.get register) := by
  cases h : register.isSegment with
  | true => rw [digits_segment r h, Text.readHex32_word, get_segment r h]
  | false => rw [digits_long r h, Text.readHex32_long]

theorem isWord_digits (register : Register) : Text.IsWord (r.digits register) := by
  refine Text.isWord_hex ?_ _
  split <;> decide

/-- The digits of a register are an offset, whatever the session holds. -/
theorem offset_digits (s : Session) (register : Register) :
    Operand.offset s (r.digits register) = .ok (r.get register, none) := by
  rw [Operand.offset, readHex32_digits]

/-- The digits of a segment register are a segment, whatever the session holds. -/
theorem segment_digits (s : Session) {register : Register} (h : register.isSegment = true) :
    Operand.segment s (r.digits register) = .ok (Operand.selector r register) := by
  rw [digits_segment r h, Operand.segment_hex]

end Registers

namespace Listing

/-! ## Words -/

/-- Registers with their labels, as they stand in a line. -/
def fieldLine (r : Registers) (registers : List Register) : String :=
  " ".intercalate (registers.map fun register => register.name ++ " " ++ r.digits register)

/-- Registers with their labels, word by word. -/
def fields (r : Registers) (registers : List Register) : List String :=
  registers.flatMap fun register => [register.name, r.digits register]

/-- The registers of the block, in order. -/
def blockRegisters : List Register :=
  [.eax, .esi, .ds, .es, .ebx, .edi, .fs, .gs, .ecx, .ebp, .edx, .esp, .ss, .cs, .eip]

/-- The letters of the set flags. -/
def letters (r : Registers) : List String :=
  (Flag.listed.filter r.has).map fun f => .ofList [f.letter]

theorem registers_eq (r : Registers) :
    registers r = [fieldLine r [.eax, .esi, .ds, .es], fieldLine r [.ebx, .edi, .fs, .gs],
      fieldLine r [.ecx, .ebp], fieldLine r [.edx, .esp, .ss],
      fieldLine r [.cs, .eip] ++ flags r] := by
  simp only [fieldLine, List.map_cons, List.map_nil, Registers.digits, Register.isSegment,
    Registers.get, UInt16.toNat_toUInt32, Bool.false_eq_true, if_true, if_false]
  rfl

theorem words_fieldLine (r : Registers) (registers : List Register) :
    Text.words (fieldLine r registers) = fields r registers := by
  have hfield (register : Register) :
      Text.words (register.name ++ " " ++ r.digits register) =
        [register.name, r.digits register] := by
    have hname : Text.IsWord register.name := by cases register <;> decide
    rw [Text.words_append_space, hname.words_eq, (r.isWord_digits register).words_eq]
    rfl
  induction registers with
  | nil => rfl
  | cons register rest ih =>
    cases rest with
    | nil => exact hfield register
    | cons next rest =>
      have hline : fieldLine r (register :: next :: rest) =
          (register.name ++ " " ++ r.digits register) ++ " " ++ fieldLine r (next :: rest) := by
        simp [fieldLine]
      rw [hline, Text.words_append_space, hfield, ih]
      rfl

/-- Letters with a space in front of each are words, behind any text. -/
theorem words_append_letters (s : String) (items : List Flag) :
    Text.words (s ++ .ofList (items.flatMap fun f => [' ', f.letter])) =
      Text.words s ++ items.map fun f => .ofList [f.letter] := by
  induction items generalizing s with
  | nil => simp
  | cons f rest ih =>
    have hletter : Text.IsWord (.ofList [f.letter]) := by cases f <;> decide
    have hsplit : s ++ .ofList ((f :: rest).flatMap fun f => [' ', f.letter]) =
        (s ++ " " ++ .ofList [f.letter]) ++ .ofList (rest.flatMap fun f => [' ', f.letter]) := by
      rw [← String.toList_inj]
      simp
    rw [hsplit, ih, Text.words_append_space, hletter.words_eq, List.append_assoc]
    rfl

/-- The words of the block: the labels with their digits, then the letters. -/
theorem words_registers (r : Registers) :
    (registers r).flatMap Text.words = fields r blockRegisters ++ letters r := by
  have hlast : Text.words (fieldLine r [.cs, .eip] ++ flags r) =
      fields r [.cs, .eip] ++ letters r := by
    rw [flags, words_append_letters, words_fieldLine]
    rfl
  rw [registers_eq]
  simp only [List.flatMap_cons, List.flatMap_nil, words_fieldLine, hlast, List.append_nil]
  rfl

/-! ## Labels -/

/-- The word behind a label in some lines. -/
def valueOf? (label : String) (lines : List String) : Option String :=
  (((lines.flatMap Text.words).dropWhile (· != label)).drop 1).head?

/-- No digits look like a label. -/
theorem digits_ne_name (r : Registers) (register register' : Register) :
    r.digits register ≠ register'.name := by
  intro h
  have hlength : (r.digits register).toList.length ∈ [4, 8] := by
    cases register <;> simp [Registers.digits, Text.hex, Register.isSegment]
  have hname : register'.name.toList.length ∉ [4, 8] := by cases register' <;> decide
  exact hname (h ▸ hlength)

theorem dropWhile_fields (r : Registers) {register : Register} {registers : List Register}
    (h : register ∈ registers) (rest : List String) :
    ∃ behind, (fields r registers ++ rest).dropWhile (· != register.name) =
      register.name :: r.digits register :: behind := by
  induction registers with
  | nil => cases h
  | cons first others ih =>
    have hfields : fields r (first :: others) ++ rest =
        first.name :: r.digits first :: (fields r others ++ rest) := rfl
    rw [hfields]
    by_cases hfirst : first = register
    · subst hfirst
      exact ⟨_, List.dropWhile_cons_of_neg (by simp)⟩
    · -- Neither another label nor its digits end the search.
      have hname : first.name ≠ register.name := fun h => hfirst (Operand.name_inj h)
      obtain ⟨behind, hbehind⟩ := ih ((List.mem_cons.mp h).resolve_left (Ne.symm hfirst))
      refine ⟨behind, ?_⟩
      simpa [List.dropWhile_cons, hname, digits_ne_name] using hbehind

/-- The word behind the label of a register is that register in digits. -/
theorem valueOf?_registers (r : Registers) {register : Register} (h : register ≠ .flags) :
    valueOf? register.name (registers r) = some (r.digits register) := by
  have hmem : register ∈ blockRegisters := by
    cases register with
    | flags => exact absurd rfl h
    | _ => decide
  obtain ⟨behind, hbehind⟩ := dropWhile_fields r hmem (letters r)
  rw [valueOf?, words_registers, hbehind]
  rfl

/-! ## Flags -/

theorem letter_inj {f g : Flag} (h : String.ofList [f.letter] = .ofList [g.letter]) : f = g := by
  have hfind (f : Flag) :
      Flag.listed.find? (fun g => String.ofList [g.letter] == .ofList [f.letter]) = some f := by
    cases f <;> decide
  have hread := hfind f
  rw [h, hfind g, Option.some.injEq] at hread
  exact hread.symm

/-- The letters tell every flag. -/
theorem has_eq_of_letters {r s : Registers} (h : letters r = letters s) (f : Flag) :
    r.has f = s.has f := by
  have hset : Flag.listed.filter r.has = Flag.listed.filter s.has :=
    List.map_inj_right (fun _ _ => letter_inj) |>.mp h
  have hlisted : f ∈ Flag.listed := by cases f <;> decide
  have hmem (t : Registers) : f ∈ Flag.listed.filter t.has ↔ t.has f = true := by
    simp [hlisted]
  rw [Bool.eq_iff_iff, ← hmem r, ← hmem s, hset]

/-! ## The block -/

/-- Snapshots with the same registers and flags have the same block. -/
theorem registers_congr {r s : Registers}
    (hget : ∀ register, register ≠ .flags → r.get register = s.get register)
    (hhas : ∀ f, r.has f = s.has f) : registers r = registers s := by
  have hflags : flags r = flags s := by
    rw [flags, flags, List.filter_congr fun f _ => hhas f]
  have hline {items : List Register} (h : .flags ∉ items) :
      fieldLine r items = fieldLine s items := by
    have hfields : items.map (fun register => register.name ++ " " ++ r.digits register) =
        items.map fun register => register.name ++ " " ++ s.digits register := by
      refine List.map_congr_left fun register hmem => ?_
      rw [Registers.digits, Registers.digits, hget register fun heq => h (heq ▸ hmem)]
    rw [fieldLine, fieldLine, hfields]
  rw [registers_eq, registers_eq, hflags, hline (by decide), hline (by decide), hline (by decide),
    hline (by decide), hline (by decide)]

theorem get_eq_of_registers {r s : Registers} (h : registers r = registers s) {register : Register}
    (hregister : register ≠ .flags) : r.get register = s.get register := by
  have hdigits : r.digits register = s.digits register := by
    rw [← Option.some.injEq, ← valueOf?_registers r hregister, h, valueOf?_registers s hregister]
  have hread := r.readHex32_digits register
  rwa [hdigits, s.readHex32_digits, Option.some.injEq, eq_comm] at hread

theorem letters_eq_of_registers {r s : Registers} (h : registers r = registers s) :
    letters r = letters s := by
  have hwords := words_registers r
  rw [h, words_registers s] at hwords
  have hlength : (fields s blockRegisters).length = (fields r blockRegisters).length := by
    simp [fields]
  exact (List.append_inj_right hwords hlength).symm

/-- The bits of the flags that are shown. -/
def shownBits : UInt32 :=
  Flag.all.foldl (fun bits f => bits ||| 1 <<< UInt32.ofNat f.bit) 0

theorem has_masked (r : Registers) (stopped : Bool) (bits : UInt32) (f : Flag) :
    { r with stopped, flags := (r.flags &&& shownBits) ||| (bits &&& ~~~shownBits) }.has f =
      r.has f := by
  have hshown : shownBits.toNat.testBit f.bit = true := by cases f <;> decide
  have hhidden : (~~~shownBits).toNat.testBit f.bit = false := by cases f <;> decide
  simp only [Registers.has, UInt32.toNat_or, UInt32.toNat_and, Nat.testBit_or, Nat.testBit_and,
    hshown, hhidden, Bool.and_true, Bool.and_false, Bool.or_false]

/-- Two snapshots have the same block exactly if they agree on every register but the flags, and on
each of the nine flags; so whether the machine is stopped and the other bits of the flags never
show. Behind the label of a register stand its digits, which are that register as an offset, and a
segment register as a segment too, whatever the session holds. -/
theorem register_block_exact (r : Registers) :
    (∀ s, registers r = registers s ↔
      (∀ register, register ≠ .flags → r.get register = s.get register) ∧
        ∀ f : Flag, r.has f = s.has f) ∧
    (∀ stopped bits,
      registers { r with stopped, flags := (r.flags &&& shownBits) ||| (bits &&& ~~~shownBits) } =
        registers r) ∧
    ∀ register, register ≠ .flags → ∃ token, valueOf? register.name (registers r) = some token ∧
      Text.readHex32 token.toList = some (r.get register) ∧
      ∀ s, Operand.offset s token = .ok (r.get register, none) ∧
        (register.isSegment = true →
          Operand.segment s token = .ok (Operand.selector r register)) := by
  refine ⟨fun s => ⟨fun h => ⟨fun register => get_eq_of_registers h, ?_⟩, fun h => ?_⟩,
    fun stopped bits => ?_, fun register hregister => ?_⟩
  · exact has_eq_of_letters (letters_eq_of_registers h)
  · exact registers_congr h.1 h.2
  · refine registers_congr (fun register hregister => ?_) (has_masked r stopped bits)
    cases register with
    | flags => exact absurd rfl hregister
    | _ => rfl
  · exact ⟨r.digits register, valueOf?_registers r hregister, r.readHex32_digits register,
      fun s => ⟨r.offset_digits s register, r.segment_digits s⟩⟩

/-- A snapshot with reserved bits among its flags, and one that differs in a flag. -/
theorem register_block_exact_flags :
    let r : Registers := { flags := 0xFFFFF0FF, ss := 0x10, eip := 0xDEADBEEF }
    let s : Registers := { r with flags := 0xFFFFF0FE }
    registers r ≠ registers s ∧ registers { r with flags := 0xD5 } = registers r ∧
      Register.ss ≠ .flags ∧ valueOf? "SS" (registers r) = some "0010" ∧
      ∀ t : Session, Operand.segment t "0010" = .ok 0x10 := by
  intro r s
  obtain ⟨hiff, hmasked, hlabel⟩ := register_block_exact r
  have hss : Register.ss ≠ .flags := by decide
  obtain ⟨token, hvalue, -, hread⟩ := hlabel .ss hss
  have htoken : valueOf? "SS" (registers r) = some "0010" := by decide +kernel
  have hbits : (r.flags &&& shownBits) ||| (0 &&& ~~~shownBits) = 0xD5 := by decide
  refine ⟨fun h => ?_, hbits ▸ hmasked false 0, hss, htoken, fun t => ?_⟩
  · exact absurd (((hiff s).mp h).2 .carry) (by decide)
  · rw [show Register.ss.name = "SS" from rfl, htoken, Option.some.injEq] at hvalue
    exact hvalue ▸ (hread t).2 rfl

end Listing

end DebugConsole
