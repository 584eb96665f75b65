import DebugConsole.Proofs.Command.OperandLemmas
import DebugConsole.Proofs.Command.Orders
import DebugConsole.Proofs.Text.LetterCase

/-!
# Operands in other letter case

Two lines that differ in letter case only give their operands the same values, and faults that
quote the operand as it stands in each line.

- **Readings** (`ReadAlike`): the same value, or the same fault but for its quotation; a rule for
  each way to go on.
- **Operands** (`Variants`): words at the same place of the two lines. Neither begins with `0X`,
  which unlike `0x` stands in front of no number (`integer_alike`).
- **Orders** (`Order.read_alike`): what a command reads from its words.
-/

namespace DebugConsole

variable {α β : Type} {line line' : List Char}

/-- The faults that quote what was typed. -/
def OperandError.quoting : List (String → OperandError) :=
  [.badNumber, .negative, .notByte, .unknownSymbol, .unknownSegment, .unknownRegister,
   .unknownBreakpointKind, .badLength]

/-- Symbols are resolved whatever the case of their letters. -/
def Session.IgnoresCase (s : Session) : Prop :=
  ∀ name name', Text.sameName name name' = true → s.resolve name = s.resolve name'

/-! ## Readings -/

/-- The same result for both lines, or a fault of the same kind that quotes what stands at the same
place of each. -/
inductive ReadAlike (line line' : List Char) :
    Except OperandError α → Except OperandError α → Prop where
  | same (x : Except OperandError α) : ReadAlike line line' x x
  | quoted {fault : String → OperandError} {q q' : String} (hfault : fault ∈ OperandError.quoting)
    (h : Text.SamePlace line line' q.toList q'.toList) :
    ReadAlike line line' (.error (fault q)) (.error (fault q'))

namespace ReadAlike

theorem bind {x x' : Except OperandError α} {f f' : α → Except OperandError β}
    (hx : ReadAlike line line' x x') (hf : ∀ a, ReadAlike line line' (f a) (f' a)) :
    ReadAlike line line' (x >>= f) (x' >>= f') := by
  cases hx with
  | quoted hfault h => exact .quoted hfault h
  | same x =>
    cases x with
    | error e => exact .same _
    | ok a => exact hf a

theorem ite {c : Prop} [Decidable c] {x x' y y' : Except OperandError α}
    (hx : ReadAlike line line' x x') (hy : ReadAlike line line' y y') :
    ReadAlike line line' (if c then x else y) (if c then x' else y') := by
  by_cases hc : c
  · simpa only [if_pos hc] using hx
  · simpa only [if_neg hc] using hy

/-- A value that is refused under some condition, with the operand in the fault. -/
theorem guarded {c : Prop} [Decidable c] {fault : String → OperandError} {q q' : String}
    (hfault : fault ∈ OperandError.quoting) (h : Text.SamePlace line line' q.toList q'.toList)
    (a : α) :
    ReadAlike line line'
      (do
        if c then throw (fault q)
        return a)
      (do
        if c then throw (fault q')
        return a) := by
  by_cases hc : c
  · simp only [if_pos hc]
    exact .quoted hfault h
  · simp only [if_neg hc]
    exact .same _

theorem mapM {R : String → String → Prop} {f : String → Except OperandError α}
    (hf : ∀ token token', R token token' → ReadAlike line line' (f token) (f token'))
    {tokens tokens' : List String} (h : List.Forall₂ R tokens tokens') :
    ReadAlike line line' (tokens.mapM f) (tokens'.mapM f) := by
  induction h with
  | nil => exact .same _
  | cons htoken _ ih =>
    rw [List.mapM_cons, List.mapM_cons]
    exact (hf _ _ htoken).bind fun a => ih.bind fun rest => .same _

end ReadAlike

namespace Operand

/-! ## Numbers -/

/-- The token does not begin with `0X`, which is no number's prefix. -/
def NoCapitalX (token : String) : Prop :=
  ¬ ['0', 'X'] <+: token.toList

instance (token : String) : Decidable (NoCapitalX token) :=
  inferInstanceAs (Decidable (¬ _))

/-- Words of two lines at the same place of them, neither of which begins with `0X`. -/
structure Variants (line line' : List Char) (token token' : String) : Prop where
  place : Text.SamePlace line line' token.toList token'.toList
  noCapitalX : NoCapitalX token
  noCapitalX' : NoCapitalX token'

/-- Without a capital among them, two letters that may differ in case are both `x` or both not. -/
theorem eq_x_iff {d d' : Char} (h : d.toUpper = d'.toUpper) (hX : d ≠ 'X') (hX' : d' ≠ 'X') :
    d = 'x' ↔ d' = 'x' := by
  have hd := toUpper_eq_x_iff d
  have hd' := toUpper_eq_x_iff d'
  simp only [hX, hX', or_false] at hd hd'
  rw [← hd, ← hd', h]

theorem integer?_congr {cs cs' : List Char} (h : cs.map Char.toUpper = cs'.map Char.toUpper)
    (hx : ¬ ['0', 'X'] <+: cs) (hx' : ¬ ['0', 'X'] <+: cs') : integer? cs = integer? cs' := by
  have hzero (c : Char) : c.toUpper = '0' ↔ c = '0' := toUpper_eq_iff (by decide) c
  cases cs with
  | nil =>
    obtain rfl := List.map_eq_nil_iff.mp h.symm
    rfl
  | cons c rest =>
    obtain ⟨c', rest', rfl, hc, hrest⟩ := List.map_eq_cons_iff.mp h.symm
    by_cases hc0 : c = '0'
    · obtain rfl := hc0
      obtain rfl : c' = '0' := (hzero c').mp hc
      cases rest with
      | nil =>
        obtain rfl := List.map_eq_nil_iff.mp hrest
        rfl
      | cons d ds =>
        obtain ⟨d', ds', rfl, hd, hds⟩ := List.map_eq_cons_iff.mp hrest
        have hX : d ≠ 'X' := by
          rintro rfl
          simp at hx
        have hX' : d' ≠ 'X' := by
          rintro rfl
          simp at hx'
        -- Both have the prefix `0x`, or neither has.
        have hmark := eq_x_iff hd.symm hX hX'
        by_cases hdx : d = 'x'
        · obtain rfl := hmark.mp hdx
          subst hdx
          simp only [integer?, Text.readHex32_congr hds]
        · rw [integer?_zero hdx, integer?_zero (mt hmark.mpr hdx), Text.readHex32_congr hrest.symm]
    · have hc0' : c' ≠ '0' := by
        rintro rfl
        exact hc0 ((hzero c).mp hc.symm)
      rw [integer?_of_ne_zero hc0, integer?_of_ne_zero hc0', Text.readSigned_congr h]

theorem isEmpty_congr {token token' : String}
    (h : Text.SamePlace line line' token.toList token'.toList) :
    token.isEmpty = token'.isEmpty := by
  rw [Bool.eq_iff_iff, String.isEmpty_iff, String.isEmpty_iff, ← String.toList_eq_nil_iff,
    ← String.toList_eq_nil_iff, ← List.length_eq_zero_iff, ← List.length_eq_zero_iff, h.length_eq]

section Operands

variable {token token' : String} (hline : line.map Char.toUpper = line'.map Char.toUpper)
include hline

theorem integer_alike (h : Variants line line' token token') :
    ReadAlike line line' (integer token) (integer token') := by
  have hvalue : integer? token.toList = integer? token'.toList :=
    integer?_congr (h.place.map_toUpper hline) h.noCapitalX h.noCapitalX'
  rw [integer, integer, hvalue]
  cases integer? token'.toList with
  | some n => exact .same _
  | none => exact .quoted (by simp [OperandError.quoting]) h.place

theorem count_alike (h : Variants line line' token token') :
    ReadAlike line line' (count token) (count token') := by
  refine (integer_alike hline h).bind fun n => ?_
  exact .guarded (by simp [OperandError.quoting]) h.place n

theorem byte_alike (h : Variants line line' token token') :
    ReadAlike line line' (byte token) (byte token') := by
  refine (integer_alike hline h).bind fun n => ?_
  exact .guarded (by simp [OperandError.quoting]) h.place _

theorem searchLength_alike (h : Variants line line' token token') :
    ReadAlike line line' (searchLength token) (searchLength token') := by
  refine (integer_alike hline h).bind fun n => ?_
  exact .guarded (by simp [OperandError.quoting]) h.place n

theorem bytes_alike {tokens tokens' : List String}
    (h : List.Forall₂ (Variants line line') tokens tokens') :
    ReadAlike line line' (bytes tokens) (bytes tokens') := by
  have hbyte (token token' : String) (htoken : Variants line line' token token') :
      ReadAlike line line' (byte token) (byte token') := byte_alike hline htoken
  refine (ReadAlike.mapM hbyte h).bind fun values => ?_
  exact .same _

/-! ## Addresses -/

theorem upper_congr (h : Text.SamePlace line line' token.toList token'.toList) :
    Text.upper token = Text.upper token' := by
  rw [Text.upper, Text.upper, h.map_toUpper hline]

theorem offset_alike {s : Session} (hresolve : s.IgnoresCase)
    (h : Text.SamePlace line line' token.toList token'.toList) :
    ReadAlike line line' (offset s token) (offset s token') := by
  have hupper := h.map_toUpper hline
  rw [offset, offset, Text.readHex32_congr hupper, upper_congr hline h, isEmpty_congr h,
    hresolve token token' (Text.sameName_iff.mpr hupper)]
  cases Text.readHex32 token'.toList with
  | some value => exact .same _
  | none =>
    cases offsetRegisters.find? fun pair => Text.upper token' == pair.1.name with
    | some pair => exact .same _
    | none =>
      refine .ite (.same _) ?_
      cases s.resolve token' with
      | some value => exact .same _
      | none => exact .quoted (by simp [OperandError.quoting]) h

theorem segment_alike (s : Session) (h : Text.SamePlace line line' token.toList token'.toList) :
    ReadAlike line line' (segment s token) (segment s token') := by
  rw [segment, segment, Text.readHex32_congr (h.map_toUpper hline), upper_congr hline h]
  cases (Text.readHex32 token'.toList).filter (·.toNat < UInt16.size) with
  | some value => exact .same _
  | none =>
    cases segmentRegisters.find? fun register => Text.upper token' == register.name with
    | some register => exact .same _
    | none => exact .quoted (by simp [OperandError.quoting]) h

/-- A token is split where the other one is. -/
theorem splitColon?_place (h : Text.SamePlace line line' token.toList token'.toList)
    (hcolon : ':' ∈ token.toList) :
    ∃ before after before' after', splitColon? token = some (before, after) ∧
      splitColon? token' = some (before', after') ∧
      Text.SamePlace line line' before.toList before'.toList ∧
      Text.SamePlace line line' after.toList after'.toList := by
  obtain ⟨before, after, htoken, hbefore⟩ := List.eq_append_cons_of_mem hcolon
  have hupper := h.map_toUpper hline
  rw [htoken, List.map_append, List.map_cons] at hupper
  obtain ⟨before', tail', htoken', hbefore', htail⟩ := List.map_eq_append_iff.mp hupper.symm
  obtain ⟨c, after', rfl, hc, hafter⟩ := List.map_eq_cons_iff.mp htail
  obtain rfl : c = ':' := (toUpper_eq_iff (by decide) c).mp hc
  have hnone : ':' ∉ before' := by
    rwa [← mem_map_toUpper_iff (by decide), hbefore', mem_map_toUpper_iff (by decide)]
  have hlength : before.length = before'.length := by simpa using congrArg List.length hbefore'.symm
  have hlength' : after.length = after'.length := by simpa using congrArg List.length hafter.symm
  rw [htoken, htoken'] at h
  refine ⟨.ofList before, .ofList after, .ofList before', .ofList after', ?_, ?_, ?_, ?_⟩
  · rw [← splitColon?_append hbefore, ← htoken, String.ofList_toList]
  · rw [← splitColon?_append hnone, ← htoken', String.ofList_toList]
  · rw [String.toList_ofList, String.toList_ofList]
    exact h.trans ((Text.SamePlace.whole hlength).append_right _ _)
  · rw [String.toList_ofList, String.toList_ofList]
    exact h.trans (((Text.SamePlace.whole hlength').cons ':' ':').append_left hlength)

theorem address_alike {s : Session} (hresolve : s.IgnoresCase) (context : Context)
    (h : Text.SamePlace line line' token.toList token'.toList) :
    ReadAlike line line' (address s context token) (address s context token') := by
  by_cases hcolon : ':' ∈ token.toList
  · obtain ⟨before, after, before', after', hsplit, hsplit', hbefore, hafter⟩ :=
      splitColon?_place hline h hcolon
    rw [address, address, hsplit, hsplit']
    refine (segment_alike hline s hbefore).bind fun segment => ?_
    refine (offset_alike hline hresolve hafter).bind fun read => ?_
    exact .same _
  · have hcolon' : ':' ∉ token'.toList := by
      rwa [← mem_map_toUpper_iff (by decide), ← h.map_toUpper hline,
        mem_map_toUpper_iff (by decide)]
    rw [address, address, splitColon?_eq_none hcolon, splitColon?_eq_none hcolon']
    refine (offset_alike hline hresolve h).bind fun read => ?_
    exact .same _

/-! ## Names -/

theorem register_alike (h : Text.SamePlace line line' token.toList token'.toList) :
    ReadAlike line line' (register token) (register token') := by
  unfold register
  rw [upper_congr hline h]
  refine .ite (.same _) ?_
  cases Register.all.find? (·.name == Text.upper token') with
  | some register => exact .same _
  | none => exact .quoted (by simp [OperandError.quoting]) h

theorem breakpointKind_alike (h : Text.SamePlace line line' token.toList token'.toList) :
    ReadAlike line line' (breakpointKind token) (breakpointKind token') := by
  unfold breakpointKind
  rw [upper_congr hline h]
  cases breakpointNames.lookup (Text.upper token') with
  | some kind => exact .same _
  | none => exact .quoted (by simp [OperandError.quoting]) h

end Operands

theorem orDefault_alike {token token' : String} {default : α}
    {parse : String → Except OperandError α}
    (h : Variants line line' token token')
    (hparse : ReadAlike line line' (parse token) (parse token')) :
    ReadAlike line line' (orDefault default parse token) (orDefault default parse token') := by
  rw [orDefault, orDefault, isEmpty_congr h.place]
  exact .ite (.same _) hparse

end Operand

/-! ## Orders -/

namespace Order

open Operand

/-- An omitted word is at the same place of both lines. -/
theorem word_variants {words words' : List String}
    (h : List.Forall₂ (Variants line line') words words') (n : Nat) :
    Variants line line' (word words n) (word words' n) := by
  have hrest := List.forall₂_drop n h
  unfold word
  generalize words.drop n = rest, words'.drop n = rest' at hrest
  cases hrest with
  | nil => exact ⟨Text.SamePlace.nil, by decide, by decide⟩
  | cons hword _ => exact hword

/-- From the words of two lines that differ in letter case only, a command reads the same order. -/
theorem read_alike {s : Session} (hline : line.map Char.toUpper = line'.map Char.toUpper)
    (hresolve : s.IgnoresCase) {words words' : List String}
    (h : List.Forall₂ (Variants line line') words words') (help : List String)
    (name : String) : ReadAlike line line' (read help s words name) (read help s words' name) := by
  have hword := word_variants h
  have hempty : words.isEmpty = words'.isEmpty := by cases h <;> rfl
  unfold read
  split
  -- The commands that read operands are left, in the order of the table.
  all_goals try exact .same _
  · refine (count_alike hline (hword 0)).bind fun count => ?_
    exact .same _
  · refine (address_alike hline hresolve .code (hword 0).place).bind fun address => ?_
    exact .same _
  · rw [hempty]
    refine .ite (.same _) ?_
    refine (address_alike hline hresolve .code (hword 0).place).bind fun address => ?_
    refine (orDefault_alike (hword 1) (count_alike hline (hword 1))).bind fun count => ?_
    exact .same _
  · refine (address_alike hline hresolve .data (hword 0).place).bind fun address => ?_
    refine (orDefault_alike (hword 1) (count_alike hline (hword 1))).bind fun length => ?_
    exact .same _
  · refine (address_alike hline hresolve .data (hword 0).place).bind fun address => ?_
    refine (bytes_alike hline (List.forall₂_drop 1 h)).bind fun bytes => ?_
    exact .same _
  · refine (address_alike hline hresolve .data (hword 0).place).bind fun start => ?_
    refine (searchLength_alike hline (hword 1)).bind fun length => ?_
    refine (bytes_alike hline (List.forall₂_drop 2 h)).bind fun pattern => ?_
    exact .same _
  · refine (address_alike hline hresolve .code (hword 0).place).bind fun address => ?_
    refine (orDefault_alike (hword 1) (breakpointKind_alike hline (hword 1).place)).bind
      fun kind => ?_
    refine (orDefault_alike (hword 2) (byte_alike hline (hword 2))).bind fun ah => ?_
    refine (orDefault_alike (hword 3) (byte_alike hline (hword 3))).bind fun al => ?_
    exact .same _
  · refine (address_alike hline hresolve .code (hword 0).place).bind fun address => ?_
    exact .same _
  · refine (register_alike hline (hword 0).place).bind fun register => ?_
    refine (integer_alike hline (hword 1)).bind fun value => ?_
    exact .same _

end Order

end DebugConsole
