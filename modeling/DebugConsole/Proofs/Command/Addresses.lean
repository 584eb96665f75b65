import Mathlib.Data.List.Nodup
import DebugConsole.Proofs.Command.OperandLemmas
import DebugConsole.Proofs.Text.Numerals

/-!
# Addresses as operands

Which tokens are addresses, and what they denote.

- **Segments** (`SpellsSegment`): digits of sixteen bits, or a segment register in any letter case.
  No spelling has a colon or a space in it, so an offset may have colons behind one.
- **Offsets** (`SpellsOffset`): digits of thirty-two bits, or else a register that holds an offset,
  or else a symbol (`Symbolic`).
- **Addresses** (`Denotes`): a segment and an offset around the first colon, or an offset alone,
  which is the same as behind the segment that it implies (`address_implied`).
-/

namespace DebugConsole.Operand

variable {s : Session} {token name : String}

/-! ## Names -/

/-- A table of names in capitals is searched without regard to letter case. -/
theorem find?_named_eq_some_iff {α : Type} {table : List α} {nameOf : α → String}
    (hupper : ∀ a ∈ table, Text.upper (nameOf a) = nameOf a) (hnodup : (table.map nameOf).Nodup)
    {a : α} :
    table.find? (fun a => Text.upper token == nameOf a) = some a ↔
      a ∈ table ∧ Text.sameName token (nameOf a) = true := by
  constructor
  · intro h
    have hmem : a ∈ table := List.mem_of_find?_eq_some h
    rw [Text.sameName, hupper a hmem]
    exact ⟨hmem, by simpa using List.find?_some h⟩
  · rintro ⟨hmem, hsame⟩
    rw [Text.sameName, hupper a hmem] at hsame
    cases hfind : table.find? (fun a => Text.upper token == nameOf a) with
    | none => exact absurd hsame (List.find?_eq_none.mp hfind a hmem)
    | some b =>
      have hfound : (Text.upper token == nameOf b) = true := by simpa using List.find?_some hfind
      have hname : nameOf b = nameOf a := (beq_iff_eq.mp hfound).symm.trans (beq_iff_eq.mp hsame)
      rw [List.inj_on_of_nodup_map hnodup (List.mem_of_find?_eq_some hfind) hmem hname]

theorem find?_segmentRegisters_eq_some_iff {register : Register} :
    segmentRegisters.find? (fun register => Text.upper token == register.name) = some register ↔
      register ∈ segmentRegisters ∧ Text.sameName token register.name = true :=
  find?_named_eq_some_iff (by decide) (by decide)

theorem find?_offsetRegisters_eq_some_iff {pair : Register × Register} :
    offsetRegisters.find? (fun pair => Text.upper token == pair.1.name) = some pair ↔
      pair ∈ offsetRegisters ∧ Text.sameName token pair.1.name = true :=
  find?_named_eq_some_iff (by decide) (by decide)

/-- No name of a register is a number. -/
theorem digits?_of_sameName {register : Register}
    (h : Text.sameName token register.name = true) : Text.digits? 16 token.toList = none := by
  rw [Text.digits?_congr (Text.sameName_iff.mp h)]
  cases register <;> rfl

theorem readHex32_of_sameName {register : Register}
    (h : Text.sameName token register.name = true) : Text.readHex32 token.toList = none := by
  refine Option.eq_none_iff_forall_ne_some.mpr fun value hread => ?_
  rw [Text.readHex32_eq_some_iff, digits?_of_sameName h] at hread
  cases hread

/-! ## Segments -/

/-- The segment registers by name, with what they hold. -/
def namedSegments (r : Registers) : List (String × UInt16) :=
  [("CS", r.cs), ("DS", r.ds), ("ES", r.es), ("FS", r.fs), ("GS", r.gs), ("SS", r.ss)]

theorem namedSegments_eq (r : Registers) :
    namedSegments r =
      segmentRegisters.map fun register => (register.name, selector r register) := by
  simp [namedSegments, segmentRegisters, selector, Registers.get, Register.name]

/-- The spellings of a segment: its digits, or the name of a register that holds it. -/
inductive SpellsSegment (r : Registers) (token : String) (value : UInt16) : Prop where
  | digits (h : Text.digits? 16 token.toList = some value.toNat)
  | register {name : String} (hmem : (name, value) ∈ namedSegments r)
    (h : Text.sameName token name = true)

theorem SpellsSegment.of_mem {r : Registers} {value : UInt16}
    (hmem : (name, value) ∈ namedSegments r) : SpellsSegment r name value :=
  .register hmem (Text.sameName_iff.mpr rfl)

/-- Every spelling of a segment is read as that segment. -/
theorem segment_spelled {value : UInt16} (h : SpellsSegment s.current token value) :
    segment s token = .ok value := by
  cases h with
  | digits h =>
    have hread : Text.readHex32 token.toList = some value.toUInt32 :=
      Text.readHex32_eq_some_iff.mpr (by simpa using h)
    have hvalue : value.toUInt32.toNat < UInt16.size := by
      rw [UInt16.toNat_toUInt32]
      exact value.toNat_lt
    simp only [segment, hread, Option.filter_some, hvalue, decide_true, if_true,
      UInt16.toUInt16_toUInt32]
  | register hmem h =>
    rw [namedSegments_eq, List.mem_map] at hmem
    obtain ⟨register, hregister, ⟨⟩⟩ := hmem
    rw [segment, readHex32_of_sameName h, find?_segmentRegisters_eq_some_iff.mpr ⟨hregister, h⟩]
    rfl

/-- There are no other spellings. -/
theorem segment_eq_ok_iff {value : UInt16} :
    segment s token = .ok value ↔ SpellsSegment s.current token value := by
  refine ⟨fun h => ?_, segment_spelled⟩
  unfold segment at h
  split at h
  case h_1 read hread =>
    obtain ⟨hdigits, hvalue⟩ := Option.filter_eq_some_iff.mp hread
    cases h
    refine .digits (Text.readHex32_eq_some_iff.mp hdigits ▸ congrArg some ?_)
    rw [UInt32.toNat_toUInt16, Nat.mod_eq_of_lt (by simpa using hvalue)]
  case h_2 =>
    split at h
    case h_1 register hfind =>
      obtain ⟨hregister, hname⟩ := find?_segmentRegisters_eq_some_iff.mp hfind
      cases h
      exact .register (namedSegments_eq s.current ▸ List.mem_map_of_mem hregister) hname
    case h_2 => cases h

/-- No spelling of a segment has a colon or a space in it. -/
theorem SpellsSegment.not_mem {r : Registers} {value : UInt16} (h : SpellsSegment r token value) :
    ':' ∉ token.toList ∧ ' ' ∉ token.toList := by
  cases h with
  | digits h =>
    have hdigits := Text.isSome_of_digits? h
    exact ⟨fun hmem => absurd (hdigits _ hmem) (by decide),
      fun hmem => absurd (hdigits _ hmem) (by decide)⟩
  | @register name hmem h =>
    have hnames : ∀ pair ∈ namedSegments r, ':' ∉ pair.1.toList ∧ ' ' ∉ pair.1.toList := by
      simp [namedSegments]
    have hcase := Text.sameName_iff.mp h
    rw [← mem_map_toUpper_iff (by decide), ← mem_map_toUpper_iff (k := ' ') (by decide), hcase,
      mem_map_toUpper_iff (by decide), mem_map_toUpper_iff (by decide)]
    exact hnames _ hmem

/-- Digits are a segment if their value fits, and nothing else if it does not. -/
theorem segment_digits {n : Nat} (h : Text.digits? 16 token.toList = some n) :
    segment s token =
      if n < 2 ^ 16 then .ok (.ofNat n) else .error (.unknownSegment token) := by
  split
  case isTrue hn =>
    exact segment_spelled (.digits (by rw [h, UInt16.toNat_ofNat_of_lt' hn]))
  case isFalse hn =>
    have hhex : (Text.readHex32 token.toList).filter (·.toNat < UInt16.size) = none := by
      simp only [Option.filter_eq_none_iff, Text.readHex32_eq_some_iff, h, Option.some.injEq]
      rintro value rfl
      simpa using hn
    have hnone : segmentRegisters.find? (fun register => Text.upper token == register.name) =
        none := by
      refine Option.eq_none_iff_forall_ne_some.mpr fun register hfind => ?_
      obtain ⟨-, hname⟩ := find?_segmentRegisters_eq_some_iff.mp hfind
      rw [digits?_of_sameName hname] at h
      cases h
    simp only [segment, hhex, hnone]

/-! ## Offsets -/

/-- A token that only a symbol explains as an offset: it is no offset in digits, and none of the
registers that hold one. -/
structure Symbolic (token : String) : Prop where
  noDigits : ∀ n, Text.digits? 16 token.toList = some n → 2 ^ 32 ≤ n
  noRegister : ∀ register ∈ ["EAX", "EBX", "ECX", "EDX", "ESI", "EDI", "EBP", "ESP", "EIP"],
    Text.sameName token register = false

theorem Symbolic.readHex32 (h : Symbolic token) : Text.readHex32 token.toList = none := by
  cases hread : Text.readHex32 token.toList with
  | none => rfl
  | some value =>
    have hvalue := h.noDigits _ (Text.readHex32_eq_some_iff.mp hread)
    exact absurd value.toNat_lt (Nat.not_lt.mpr hvalue)

/-- A token names none of the registers if it is not found among them. -/
theorem noRegister_iff :
    (∀ register ∈ ["EAX", "EBX", "ECX", "EDX", "ESI", "EDI", "EBP", "ESP", "EIP"],
      Text.sameName token register = false) ↔
        offsetRegisters.find? (fun pair => Text.upper token == pair.1.name) = none := by
  have hnames : ["EAX", "EBX", "ECX", "EDX", "ESI", "EDI", "EBP", "ESP", "EIP"] =
      offsetRegisters.map fun pair => pair.1.name := rfl
  rw [hnames, List.forall_mem_map, Option.eq_none_iff_forall_ne_some]
  simp only [ne_eq, find?_offsetRegisters_eq_some_iff, not_and, Bool.not_eq_true]

/-- What is neither read as a number nor found among the registers is left to the symbols. -/
theorem symbolic_of_eq_none (hhex : Text.readHex32 token.toList = none)
    (hnone : offsetRegisters.find? (fun pair => Text.upper token == pair.1.name) = none) :
    Symbolic token where
  noDigits n hn := by
    by_contra hlt
    rw [Text.readHex32_of_digits? hn (Nat.lt_of_not_le hlt)] at hhex
    cases hhex
  noRegister := noRegister_iff.mpr hnone

/-- A token of this kind is looked up among the symbols. -/
theorem offset_symbol {value : UInt32} (h : Symbolic token) (hne : token ≠ "")
    (hresolve : s.resolve token = some value) : offset s token = .ok (value, none) := by
  have hempty : token.isEmpty = false := by simpa using hne
  simp [offset, h.readHex32, noRegister_iff.mp h.noRegister, hempty, hresolve]

/-- The registers that hold an offset by name, with what they hold and the selector of the segment
that they go with. -/
def namedOffsets (r : Registers) : List (String × UInt32 × UInt16) :=
  [("EAX", r.eax, r.ds), ("EBX", r.ebx, r.ds), ("ECX", r.ecx, r.ds), ("EDX", r.edx, r.ds),
   ("ESI", r.esi, r.ds), ("EDI", r.edi, r.ds), ("EBP", r.ebp, r.ss), ("ESP", r.esp, r.ss),
   ("EIP", r.eip, r.cs)]

theorem namedOffsets_eq (r : Registers) :
    namedOffsets r =
      offsetRegisters.map fun pair => (pair.1.name, r.get pair.1, selector r pair.2) := by
  simp [namedOffsets, offsetRegisters, selector, Registers.get, Register.name]

/-- The spellings of an offset, with the selector that it goes with: its digits, the name of a
register that holds it, or a symbol that stands for it where neither of these is spelled. Without a
name there is no symbol. -/
inductive SpellsOffset (s : Session) (token : String) : UInt32 → Option UInt16 → Prop where
  | digits {value : UInt32} (h : Text.digits? 16 token.toList = some value.toNat) :
    SpellsOffset s token value none
  | register {name : String} {value : UInt32} {paired : UInt16}
    (hmem : (name, value, paired) ∈ namedOffsets s.current)
    (h : Text.sameName token name = true) : SpellsOffset s token value (some paired)
  | symbol {value : UInt32} (h : Symbolic token) (hne : token ≠ "")
    (hresolve : s.resolve token = some value) : SpellsOffset s token value none

/-- A register is read as what it holds, with the segment that it goes with. -/
theorem offset_register {pair : Register × Register} (hpair : pair ∈ offsetRegisters)
    (h : Text.sameName token pair.1.name = true) :
    offset s token = .ok (s.current.get pair.1, some (selector s.current pair.2)) := by
  rw [offset, readHex32_of_sameName h, find?_offsetRegisters_eq_some_iff.mpr ⟨hpair, h⟩]

/-- An offset is read exactly if it is spelled. -/
theorem offset_eq_ok_iff {value : UInt32} {paired : Option UInt16} :
    offset s token = .ok (value, paired) ↔ SpellsOffset s token value paired := by
  constructor
  · intro h
    unfold offset at h
    split at h
    case h_1 read hread =>
      cases h
      exact .digits (Text.readHex32_eq_some_iff.mp hread)
    case h_2 hhex =>
      split at h
      case h_1 register other hfind =>
        obtain ⟨hpair, hname⟩ := find?_offsetRegisters_eq_some_iff.mp hfind
        cases h
        exact .register (namedOffsets_eq s.current ▸ List.mem_map_of_mem hpair) hname
      case h_2 hnone =>
        by_cases hempty : token.isEmpty
        · simp [hempty] at h
        · cases hresolve : s.resolve token with
          | none => simp [hempty, hresolve] at h
          | some found =>
            obtain ⟨rfl, rfl⟩ : found = value ∧ none = paired := by
              simpa [hempty, hresolve] using h
            exact .symbol (symbolic_of_eq_none hhex hnone) (by simpa using hempty) hresolve
  · rintro (h | ⟨hmem, h⟩ | ⟨h, hne, hresolve⟩)
    · rw [offset, Text.readHex32_eq_some_iff.mpr h]
    · rw [namedOffsets_eq, List.mem_map] at hmem
      obtain ⟨pair, hpair, ⟨⟩⟩ := hmem
      exact offset_register hpair h
    · exact offset_symbol h hne hresolve

/-- The empty token is left to the symbols, and still refused where it is one of them. -/
theorem empty_offset_refused :
    let s : Session := { resolve := fun name => if name = "" then some 5 else none
                         codeSize := .bits16 }
    Symbolic "" ∧ s.resolve "" = some 5 ∧ offset s "" = .error .missingAddress ∧
      address s .code "CS:" = .error .missingAddress := by
  intro s
  refine ⟨⟨fun n hn => ?_, by decide +kernel⟩, rfl, rfl, rfl⟩
  cases hn

/-! ## Implied segments -/

/-- The segment that an offset implies: that of its register, else that of its context. -/
def impliedSegment (context : Context) (token : String) : String :=
  if ["EBP", "ESP"].any (Text.sameName token) then "SS"
  else if Text.sameName token "EIP" then "CS"
  else if ["EAX", "EBX", "ECX", "EDX", "ESI", "EDI"].any (Text.sameName token) then "DS"
  else
    match context with
    | .code => "CS"
    | .data => "DS"

theorem exists_impliedSegment (r : Registers) (context : Context) (token : String) :
    ∃ held, (impliedSegment context token, held) ∈ namedSegments r := by
  have hnames (name : String) (h : name ∈ ["CS", "DS", "SS"]) :
      ∃ held, (name, held) ∈ namedSegments r := by
    simp only [List.mem_cons, List.not_mem_nil, or_false] at h
    rcases h with rfl | rfl | rfl <;> simp [namedSegments]
  apply hnames
  unfold impliedSegment
  repeat' split
  all_goals simp

theorem impliedSegment_register (context : Context) {pair : Register × Register}
    (hpair : pair ∈ offsetRegisters) (h : Text.sameName token pair.1.name = true) :
    impliedSegment context token = pair.2.name := by
  have hcase : impliedSegment context token = impliedSegment context pair.1.name := by
    have hsame : Text.sameName token = Text.sameName pair.1.name :=
      funext (Text.sameName_congr h)
    unfold impliedSegment
    rw [hsame]
  have hnames : ∀ pair ∈ offsetRegisters, impliedSegment .code pair.1.name = pair.2.name ∧
      impliedSegment .data pair.1.name = pair.2.name := by decide +kernel
  rw [hcase]
  cases context with
  | code => exact (hnames pair hpair).1
  | data => exact (hnames pair hpair).2

theorem impliedSegment_of_eq_none (r : Registers) (context : Context)
    (h : offsetRegisters.find? (fun pair => Text.upper token == pair.1.name) = none) :
    (impliedSegment context token, context.segment r) ∈ namedSegments r := by
  simp only [← noRegister_iff, List.forall_mem_cons] at h
  cases context <;> simp [impliedSegment, h, namedSegments, Context.segment]

/-- The implied segment holds the selector that the offset goes with. -/
theorem SpellsOffset.impliedSegment_mem {value : UInt32} {paired : Option UInt16}
    (h : SpellsOffset s token value paired) (context : Context) :
    (impliedSegment context token, paired.getD (context.segment s.current)) ∈
      namedSegments s.current := by
  cases h with
  | digits h =>
    refine impliedSegment_of_eq_none s.current context ?_
    refine Option.eq_none_iff_forall_ne_some.mpr fun pair hfind => ?_
    obtain ⟨-, hname⟩ := find?_offsetRegisters_eq_some_iff.mp hfind
    rw [digits?_of_sameName hname] at h
    cases h
  | register hmem h =>
    rw [namedOffsets_eq, List.mem_map] at hmem
    obtain ⟨pair, hpair, ⟨⟩⟩ := hmem
    have hsegments : ∀ pair ∈ offsetRegisters, pair.2 ∈ segmentRegisters := by decide
    rw [impliedSegment_register context hpair h, namedSegments_eq]
    exact List.mem_map_of_mem (hsegments pair hpair)
  | symbol h => exact impliedSegment_of_eq_none s.current context (noRegister_iff.mp h.noRegister)

/-! ## Addresses -/

/-- What a token denotes: a segment and an offset around its first colon, or an offset alone, in the
segment that it implies. -/
inductive Denotes (s : Session) (context : Context) (token : String) : Address → Prop where
  | explicit {before after : String} {selector : UInt16} {value : UInt32} {paired : Option UInt16}
    (htoken : token = before ++ ":" ++ after) (hbefore : ':' ∉ before.toList)
    (hsegment : SpellsSegment s.current before selector)
    (hoffset : SpellsOffset s after value paired) : Denotes s context token ⟨selector, value⟩
  | implied {selector : UInt16} {value : UInt32} {paired : Option UInt16}
    (hcolon : ':' ∉ token.toList)
    (hsegment : (impliedSegment context token, selector) ∈ namedSegments s.current)
    (hoffset : SpellsOffset s token value paired) : Denotes s context token ⟨selector, value⟩

/-- An address of two parts is read part by part. The colons behind the first one are part of the
offset. -/
theorem address_explicit (context : Context) {before : String} (hbefore : ':' ∉ before.toList)
    (after : String) :
    address s context (before ++ ":" ++ after) = do
      let selector ← segment s before
      let (value, _) ← offset s after
      return ⟨selector, value⟩ := by
  have htext : before ++ ":" ++ after = .ofList (before.toList ++ ':' :: after.toList) := by
    simp [← String.toList_inj]
  rw [address, htext, splitColon?_append hbefore, String.ofList_toList, String.ofList_toList]

theorem address_explicit_eq_ok_iff {context : Context} {before after : String} {a : Address}
    (hbefore : ':' ∉ before.toList) :
    address s context (before ++ ":" ++ after) = .ok a ↔
      SpellsSegment s.current before a.segment ∧
        ∃ paired, SpellsOffset s after a.offset paired := by
  rw [address_explicit context hbefore]
  simp only [← segment_eq_ok_iff, ← offset_eq_ok_iff]
  obtain ⟨selector, value⟩ := a
  cases segment s before with
  | error e => simp [bind, Except.bind]
  | ok selector' =>
    cases offset s after with
    | error e => simp [bind, Except.bind]
    | ok read => simp [bind, Except.bind, pure, Except.pure, Prod.ext_iff]

/-- An offset alone is read as it is behind the segment that it implies. -/
theorem address_implied (context : Context) (hcolon : ':' ∉ token.toList) :
    address s context token =
      address s context (impliedSegment context token ++ ":" ++ token) := by
  obtain ⟨held, hheld⟩ := exists_impliedSegment s.current context token
  have hspelled : SpellsSegment s.current (impliedSegment context token) held := .of_mem hheld
  rw [address_explicit context hspelled.not_mem.1, address, splitColon?_eq_none hcolon]
  cases hoffset : offset s token with
  | error e =>
    rw [segment_spelled hspelled]
    rfl
  | ok read =>
    have hread : SpellsOffset s token read.1 read.2 := offset_eq_ok_iff.mp hoffset
    rw [segment_spelled (.of_mem (hread.impliedSegment_mem context))]
    rfl

/-- An address is read exactly if a token denotes it. -/
theorem address_eq_ok_iff {context : Context} {a : Address} :
    address s context token = .ok a ↔ Denotes s context token a := by
  constructor
  · intro h
    by_cases hcolon : ':' ∈ token.toList
    · obtain ⟨before, after, htoken, hbefore⟩ := List.eq_append_cons_of_mem hcolon
      have htext : token = .ofList before ++ ":" ++ .ofList after := by
        simp [← String.toList_inj, htoken]
      have hnone : ':' ∉ (String.ofList before).toList := by rwa [String.toList_ofList]
      rw [htext, address_explicit_eq_ok_iff hnone] at h
      obtain ⟨hsegment, paired, hoffset⟩ := h
      exact .explicit htext hnone hsegment hoffset
    · rw [address_implied context hcolon] at h
      obtain ⟨held, hheld⟩ := exists_impliedSegment s.current context token
      have hnone := (SpellsSegment.of_mem hheld).not_mem.1
      obtain ⟨hsegment, paired, hoffset⟩ := (address_explicit_eq_ok_iff hnone).mp h
      have hmem := hoffset.impliedSegment_mem context
      -- A segment register holds one selector.
      have hselector : paired.getD (context.segment s.current) = a.segment :=
        Except.ok.inj ((segment_spelled (.of_mem hmem)).symm.trans (segment_spelled hsegment))
      exact .implied hcolon (hselector ▸ hmem) hoffset
  · rintro (⟨rfl, hbefore, hsegment, hoffset⟩ | ⟨hcolon, hsegment, hoffset⟩)
    · exact (address_explicit_eq_ok_iff hbefore).mpr ⟨hsegment, _, hoffset⟩
    · have hspelled : SpellsSegment s.current _ _ := .of_mem hsegment
      rw [address_implied context hcolon]
      exact (address_explicit_eq_ok_iff hspelled.not_mem.1).mpr ⟨hspelled, _, hoffset⟩

/-- Two numbers are an address whatever the session and the context, if both fit. -/
theorem address_numeric (context : Context) {before after : String} {n m : Nat}
    (hbefore : Text.digits? 16 before.toList = some n)
    (hafter : Text.digits? 16 after.toList = some m) (hm : m < 2 ^ 32) :
    address s context (before ++ ":" ++ after) =
      if n < 2 ^ 16 then .ok ⟨.ofNat n, .ofNat m⟩ else .error (.unknownSegment before) := by
  have hcolon : ':' ∉ before.toList := by
    intro hmem
    have hdigit := Text.isSome_of_digits? hbefore ':' hmem
    exact absurd hdigit (by decide)
  have hoffset : offset s after = .ok (.ofNat m, none) := by
    rw [offset, Text.readHex32_of_digits? hafter hm]
  rw [address_explicit context hcolon, segment_digits hbefore, hoffset]
  split <;> rfl

/-- Offsets and segments are read exactly as they are spelled, and addresses as what they denote: an
offset alone is the same address as behind the segment that it implies, and two numbers are the same
address in every session and every context. -/
theorem address_exact (s : Session) :
    (∀ token value paired,
      offset s token = .ok (value, paired) ↔ SpellsOffset s token value paired) ∧
    (∀ token value, segment s token = .ok value ↔ SpellsSegment s.current token value) ∧
    ∀ context : Context,
      (∀ token a, address s context token = .ok a ↔ Denotes s context token a) ∧
      (∀ token : String, ':' ∉ token.toList →
        address s context token =
          address s context (impliedSegment context token ++ ":" ++ token)) ∧
      ∀ (before after : String) (n m : Nat), Text.digits? 16 before.toList = some n →
        Text.digits? 16 after.toList = some m → m < 2 ^ 32 →
          address s context (before ++ ":" ++ after) =
            if n < 2 ^ 16 then .ok ⟨.ofNat n, .ofNat m⟩ else .error (.unknownSegment before) :=
  ⟨fun _ _ _ => offset_eq_ok_iff, fun _ _ => segment_eq_ok_iff, fun context =>
    ⟨fun _ _ => address_eq_ok_iff, fun _ => address_implied context,
      fun _ _ _ _ => address_numeric context⟩⟩

/-- A register before a symbol of its name, digits that only a symbol explains, and two numbers. -/
theorem address_exact_symbols :
    let s : Session :=
      { resolve := fun name => if name = "eBp" ∨ name = "123456789" then some 7 else none
        codeSize := .bits16
        current := { cs := 0x10, ds := 0x20, ss := 0x30, ebp := 0xF00 } }
    SpellsOffset s "eBp" 0xF00 (some 0x30) ∧ SpellsSegment s.current "Ss" 0x30 ∧
      Denotes s .data "123456789" ⟨0x20, 7⟩ ∧ ':' ∉ "eBp".toList ∧
      address s .code "eBp" = address s .code "SS:eBp" ∧
      Text.digits? 16 "F000".toList = some 0xF000 ∧ Text.digits? 16 "fff0".toList = some 0xFFF0 ∧
      address s .data "F000:fff0" = .ok ⟨0xF000, 0xFFF0⟩ := by
  intro s
  obtain ⟨hoffset, hsegment, haddress⟩ := address_exact s
  obtain ⟨-, himplied, -⟩ := haddress .code
  obtain ⟨hdenotes, -, hnumeric⟩ := haddress .data
  have hcolon : ':' ∉ "eBp".toList := by decide
  have hbefore : Text.digits? 16 "F000".toList = some 0xF000 := by decide +kernel
  have hafter : Text.digits? 16 "fff0".toList = some 0xFFF0 := by decide +kernel
  exact ⟨(hoffset _ _ _).mp (by decide +kernel), (hsegment _ _).mp (by decide +kernel),
    (hdenotes _ _).mp (by decide +kernel), hcolon, himplied "eBp" hcolon, hbefore, hafter,
    hnumeric "F000" "fff0" _ _ hbefore hafter (by decide)⟩

end DebugConsole.Operand
