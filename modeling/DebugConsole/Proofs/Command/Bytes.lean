import Mathlib.Data.List.Forall2
import DebugConsole.Proofs.Command.Addresses
import DebugConsole.Proofs.Command.Integers
import DebugConsole.Proofs.Command.Orders

/-!
# Bytes as operands

What the words behind a command are read as that takes a list of bytes, or which of them is
reported.

- **Readings** (`mapM_eq_ok_iff`, `mapM_eq_error_iff`): a list is read item by item, and refused for
  the first item that is.
- **Bytes** (`SpellsBytes`, `BytesFault`): the tokens that are bytes, and the errors of the others.
- **Words** (`read_write_eq_error_iff`, `read_search_eq_error_iff`): the address is reported before
  the length, and the length before the bytes.
-/

namespace DebugConsole

/-! ## Readings -/

section Readings

variable {ε α β : Type} {f : α → Except ε β} {e : ε}

/-- A list is read if every item is, each as one value. -/
theorem mapM_eq_ok_iff {items : List α} {values : List β} :
    items.mapM f = .ok values ↔ items.Forall₂ (fun a b => f a = .ok b) values := by
  induction items generalizing values with
  | nil => simp [pure, Except.pure, eq_comm]
  | cons a rest ih =>
    simp only [List.mapM_cons, bind_eq_ok_iff, ih, List.forall₂_cons_left_iff]
    constructor
    · rintro ⟨b, hb, bs, hbs, ⟨⟩⟩
      exact ⟨b, bs, hb, hbs, rfl⟩
    · rintro ⟨b, bs, hb, hbs, rfl⟩
      exact ⟨b, hb, bs, hbs, rfl⟩

/-- A list is refused for the first item that is. -/
theorem mapM_eq_error_iff {items : List α} :
    items.mapM f = .error e ↔ ∃ before a after, items = before ++ a :: after ∧
      (∀ b ∈ before, ∃ value, f b = .ok value) ∧ f a = .error e := by
  induction items with
  | nil => simp [pure, Except.pure]
  | cons a rest ih =>
    simp only [List.mapM_cons, bind_eq_error_iff, ih]
    constructor
    · rintro (h | ⟨b, hb, ⟨before, a', after, rfl, hbefore, h⟩ | ⟨_, _, ⟨⟩⟩⟩)
      · exact ⟨[], a, rest, rfl, by simp, h⟩
      · exact ⟨a :: before, a', after, rfl, List.forall_mem_cons.mpr ⟨⟨b, hb⟩, hbefore⟩, h⟩
    · rintro ⟨_ | ⟨_, before⟩, a', after, heq, hbefore, h⟩
      · obtain ⟨rfl, rfl⟩ := List.cons.inj heq
        exact .inl h
      · obtain ⟨rfl, rfl⟩ := List.cons.inj heq
        obtain ⟨⟨b, hb⟩, hbefore⟩ := List.forall_mem_cons.mp hbefore
        exact .inr ⟨b, hb, .inl ⟨before, a', after, rfl, hbefore, h⟩⟩

end Readings

namespace Operand

variable {token : String} {tokens : List String} {e : OperandError}

/-! ## Bytes -/

/-- Why a token is no number of some range. -/
inductive IntegerFault (fits : Int → Prop) (fault : String → OperandError) (token : String) :
    OperandError → Prop where
  | spelling (h : ∀ value, ¬ SpellsInteger token value) :
    IntegerFault fits fault token (.badNumber token)
  | range {value : Int} (h : SpellsInteger token value) (hrange : ¬ fits value) :
    IntegerFault fits fault token (fault token)

theorem integer_eq_error_iff :
    integer token = .error e ↔ e = .badNumber token ∧ ∀ value, ¬ SpellsInteger token value := by
  simp only [← exists_integer_iff, integer]
  cases integer? token.toList with
  | some n => simp
  | none => simp [eq_comm]

/-- A value that is refused under some condition gives its own error, or that of its refusal. -/
theorem guarded_eq_error_iff {α β : Type} {x : Except OperandError α} {refused : α → Prop}
    [DecidablePred refused] {fault : OperandError} {f : α → β} :
    (do
      let a ← x
      if refused a then throw fault
      return f a) = Except.error e ↔ x = .error e ∨ ∃ a, x = .ok a ∧ refused a ∧ fault = e := by
  refine bind_eq_error_iff.trans (or_congr_right (exists_congr fun a => and_congr_right fun _ => ?_))
  by_cases h : refused a
  · simp [h, throw, throwThe, MonadExceptOf.throw, bind, Except.bind]
  · simp [h, pure, Except.pure]

/-- The errors of a number that must be in some range. -/
theorem ranged_eq_error_iff {α : Type} {fits : Int → Prop} {fault : String → OperandError}
    {refused : Int32 → Prop} [DecidablePred refused] {f : Int32 → α}
    (hrefused : ∀ n, refused n ↔ ¬ fits n.toInt) :
    (do
      let n ← integer token
      if refused n then throw (fault token)
      return f n) = Except.error e ↔ IntegerFault fits fault token e := by
  rw [guarded_eq_error_iff, integer_eq_error_iff]
  constructor
  · rintro (⟨rfl, h⟩ | ⟨n, hn, hrange, rfl⟩)
    · exact .spelling h
    · exact .range (integer_eq_ok_iff.mp hn) ((hrefused n).mp hrange)
  · rintro (h | ⟨h, hrange⟩)
    · exact .inl ⟨rfl, h⟩
    · obtain ⟨n, hn, rfl⟩ := exists_integer_iff.mpr h
      exact .inr ⟨n, hn, (hrefused n).mpr hrange, rfl⟩

/-- The errors of a byte. -/
abbrev ByteFault (token : String) : OperandError → Prop :=
  IntegerFault (fun value => 0 ≤ value ∧ value ≤ 255) .notByte token

/-- The errors of a length to search. -/
abbrev LengthFault (token : String) : OperandError → Prop :=
  IntegerFault (fun value => -1 ≤ value) .badLength token

theorem byte_eq_error_iff : byte token = .error e ↔ ByteFault token e := by
  refine ranged_eq_error_iff fun n => ?_
  simp only [Bool.or_eq_true, decide_eq_true_eq, Int32.lt_iff_toInt_lt, Int32.toInt_zero,
    show (255 : Int32).toInt = 255 from rfl]
  omega

theorem searchLength_eq_error_iff : searchLength token = .error e ↔ LengthFault token e := by
  refine ranged_eq_error_iff (f := id) fun n => ?_
  rw [Int32.lt_iff_toInt_lt, show (-1 : Int32).toInt = -1 from rfl, Int.not_le]

/-- A length to search is an integer from -1 on. -/
theorem searchLength_eq_ok_iff {n : Int32} :
    searchLength token = .ok n ↔ SpellsInteger token n.toInt ∧ -1 ≤ n.toInt := by
  refine (guarded_eq_ok_iff (f := id)).trans ?_
  simp only [Int32.lt_iff_toInt_lt, show (-1 : Int32).toInt = -1 from rfl, Int.not_lt,
    ← integer_eq_ok_iff]
  constructor
  · rintro ⟨m, hm, hlow, rfl⟩
    exact ⟨hm, hlow⟩
  · rintro ⟨hn, hlow⟩
    exact ⟨n, hn, hlow, rfl⟩

/-- Each token spells one of the bytes, in order, and there is at least one. -/
def SpellsBytes (tokens : List String) (values : List UInt8) : Prop :=
  tokens ≠ [] ∧ tokens.Forall₂ (fun token b => SpellsInteger token b.toNat) values

/-- Why tokens are no bytes: there is none, or the first one that is wrong. -/
inductive BytesFault : List String → OperandError → Prop where
  | missing : BytesFault [] .missingByte
  | first {before after : List String} {token : String} {e : OperandError}
    (hbefore : ∀ good ∈ before, ∃ value, SpellsInteger good value ∧ 0 ≤ value ∧ value ≤ 255)
    (h : ByteFault token e) : BytesFault (before ++ token :: after) e

theorem byte_eq_ok_iff_spells {b : UInt8} :
    byte token = .ok b ↔ SpellsInteger token b.toNat := by
  rw [byte_eq_ok_iff, ← exists_integer_iff]

theorem exists_byte_iff :
    (∃ b, byte token = .ok b) ↔ ∃ value, SpellsInteger token value ∧ 0 ≤ value ∧ value ≤ 255 := by
  simp only [byte_eq_ok_iff_spells]
  constructor
  · rintro ⟨b, hb⟩
    have hlt : b.toNat < 256 := b.toNat_lt
    exact ⟨b.toNat, hb, by omega, by omega⟩
  · rintro ⟨value, h, hlow, hhigh⟩
    refine ⟨UInt8.ofNat value.toNat, ?_⟩
    rwa [UInt8.toNat_ofNat_of_lt' (by simp only [UInt8.size]; omega), Int.toNat_of_nonneg hlow]

theorem bytes_eq_ok_iff {values : List UInt8} :
    bytes tokens = .ok values ↔ SpellsBytes tokens values := by
  refine (guarded_eq_ok_iff (f := id)).trans ?_
  simp only [mapM_eq_ok_iff, byte_eq_ok_iff_spells]
  constructor
  · rintro ⟨bs, hbs, hne, rfl⟩
    refine ⟨?_, hbs⟩
    rintro rfl
    cases hbs
    exact hne rfl
  · rintro ⟨hne, h⟩
    refine ⟨values, h, ?_, rfl⟩
    cases h with
    | nil => exact absurd rfl hne
    | cons => simp

theorem bytes_eq_error_iff : bytes tokens = .error e ↔ BytesFault tokens e := by
  refine (guarded_eq_error_iff (f := id)).trans ?_
  simp only [mapM_eq_error_iff, mapM_eq_ok_iff, byte_eq_error_iff, exists_byte_iff]
  constructor
  · rintro (⟨before, token, after, rfl, hbefore, h⟩ | ⟨bs, hbs, hempty, rfl⟩)
    · exact .first hbefore h
    · obtain rfl := List.isEmpty_iff.mp hempty
      cases hbs
      exact .missing
  · rintro (_ | ⟨hbefore, h⟩)
    · exact .inr ⟨[], .nil, rfl, rfl⟩
    · exact .inl ⟨_, _, _, rfl, hbefore, h⟩

end Operand

open Operand

/-! ## Words -/

section Words

variable {s : Session} {token length : String} {tokens : List String}

/-- The request to write some bytes at an address. -/
inductive Writes (s : Session) (token : String) (tokens : List String) : Request → Prop where
  | mk {a : Address} {values : List UInt8} (haddress : Denotes s .data token a)
    (hbytes : SpellsBytes tokens values) : Writes s token tokens (.writeMemory a values)

/-- Why nothing is written: the address is wrong, or else the bytes are. -/
inductive WriteFault (s : Session) (token : String) (tokens : List String) : OperandError → Prop
    where
  | address {e : OperandError} (h : address s .data token = .error e) :
    WriteFault s token tokens e
  | bytes {a : Address} {e : OperandError} (haddress : Denotes s .data token a)
    (h : BytesFault tokens e) : WriteFault s token tokens e

/-- The request to search some bytes from an address on. -/
inductive Searches (s : Session) (token length : String) (tokens : List String) : Request → Prop
    where
  | mk {a : Address} {n : Int32} {values : List UInt8} (haddress : Denotes s .data token a)
    (hlength : SpellsInteger length n.toInt) (hlow : -1 ≤ n.toInt)
    (hbytes : SpellsBytes tokens values) :
    Searches s token length tokens (.searchMemory a n values 0)

/-- Why nothing is searched: the address is wrong, or else the length, or else the bytes. -/
inductive SearchFault (s : Session) (token length : String) (tokens : List String) :
    OperandError → Prop where
  | address {e : OperandError} (h : address s .data token = .error e) :
    SearchFault s token length tokens e
  | length {a : Address} {e : OperandError} (haddress : Denotes s .data token a)
    (h : LengthFault length e) : SearchFault s token length tokens e
  | bytes {a : Address} {n : Int} {e : OperandError} (haddress : Denotes s .data token a)
    (hlength : SpellsInteger length n) (hlow : -1 ≤ n) (h : BytesFault tokens e) :
    SearchFault s token length tokens e

theorem read_write_eq_ok_iff {help : List String} {o : Order} :
    Order.read help s (token :: tokens) "SetMemory" = .ok o ↔
      ∃ r, Writes s token tokens r ∧ o = .request r := by
  simp only [Order.read, Order.word, List.drop_zero, List.headD_cons, List.drop_succ_cons,
    bind_eq_ok_iff, address_eq_ok_iff, bytes_eq_ok_iff]
  constructor
  · rintro ⟨a, ha, values, hvalues, ⟨⟩⟩
    exact ⟨_, .mk ha hvalues, rfl⟩
  · rintro ⟨_, ⟨ha, hvalues⟩, rfl⟩
    exact ⟨_, ha, _, hvalues, rfl⟩

theorem read_write_eq_error_iff {help : List String} {e : OperandError} :
    Order.read help s (token :: tokens) "SetMemory" = .error e ↔ WriteFault s token tokens e := by
  simp only [Order.read, Order.word, List.drop_zero, List.headD_cons, List.drop_succ_cons,
    bind_eq_error_iff, address_eq_ok_iff, bytes_eq_error_iff]
  constructor
  · rintro (h | ⟨a, ha, h | ⟨_, _, ⟨⟩⟩⟩)
    · exact .address h
    · exact .bytes ha h
  · rintro (h | ⟨ha, h⟩)
    · exact .inl h
    · exact .inr ⟨_, ha, .inl h⟩

theorem read_search_eq_ok_iff {help : List String} {o : Order} :
    Order.read help s (token :: length :: tokens) "SearchMemory" = .ok o ↔
      ∃ r, Searches s token length tokens r ∧ o = .request r := by
  simp only [Order.read, Order.word, List.drop_zero, List.headD_cons, List.drop_succ_cons,
    bind_eq_ok_iff, address_eq_ok_iff, searchLength_eq_ok_iff, bytes_eq_ok_iff]
  constructor
  · rintro ⟨a, ha, n, ⟨hn, hlow⟩, values, hvalues, ⟨⟩⟩
    exact ⟨_, .mk ha hn hlow hvalues, rfl⟩
  · rintro ⟨_, ⟨ha, hn, hlow, hvalues⟩, rfl⟩
    exact ⟨_, ha, _, ⟨hn, hlow⟩, _, hvalues, rfl⟩

theorem read_search_eq_error_iff {help : List String} {e : OperandError} :
    Order.read help s (token :: length :: tokens) "SearchMemory" = .error e ↔
      SearchFault s token length tokens e := by
  simp only [Order.read, Order.word, List.drop_zero, List.headD_cons, List.drop_succ_cons,
    bind_eq_error_iff, address_eq_ok_iff, searchLength_eq_ok_iff, searchLength_eq_error_iff,
    bytes_eq_error_iff]
  constructor
  · rintro (h | ⟨a, ha, h | ⟨n, ⟨hn, hlow⟩, h | ⟨_, _, ⟨⟩⟩⟩⟩)
    · exact .address h
    · exact .length ha h
    · exact .bytes ha hn hlow h
  · rintro (h | ⟨ha, h⟩ | ⟨ha, hn, hlow, h⟩)
    · exact .inl h
    · exact .inr ⟨_, ha, .inl h⟩
    · obtain ⟨n, hread, rfl⟩ := exists_integer_iff.mpr hn
      exact .inr ⟨_, ha, .inr ⟨n, ⟨hn, hlow⟩, .inl h⟩⟩

end Words

end DebugConsole
