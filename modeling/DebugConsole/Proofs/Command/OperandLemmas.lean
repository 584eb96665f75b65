import Mathlib.Data.List.TakeDrop
import Mathlib.Data.List.TakeWhile
import DebugConsole.Operand
import DebugConsole.Proofs.Text.Tokens

/-!
# Printed operands

What the console prints of addresses, bytes and breakpoint kinds is read back as an operand,
whatever the session holds.

- **Numbers** (`integer?_zero`, `integer?_of_ne_zero`): what the first characters decide.
- **Addresses** (`address_text`): both parts are hexadecimal digits, so neither registers nor
  symbols are looked up.
- **Bytes** (`byte_hex`, `bytes_hex`): two digits behind a zero, which makes them hexadecimal.
- **Kinds** (`breakpointKind_name`): every printed name but that of the unknown kind.
- **Registers** (`register_name`): every printed name, so no two registers have the same.
-/

namespace DebugConsole.Operand

/-! ## Numbers -/

theorem integer?_of_ne_zero {c : Char} (hc : c ≠ '0') (rest : List Char) :
    integer? (c :: rest) =
      (Text.readSigned 0x80000000 (.ofList (c :: rest))).toOption.map Int32.ofInt := by
  unfold integer?
  split
  case h_4 => rfl
  all_goals simp_all

/-- Behind a zero, only the prefix `x` makes a difference. -/
theorem integer?_zero {d : Char} (hd : d ≠ 'x') (ds : List Char) :
    integer? ('0' :: d :: ds) = (Text.readHex32 (d :: ds)).map UInt32.toInt32 := by
  simp [integer?, hd]

/-! ## Addresses -/

theorem splitColon?_append {before after : List Char} (h : ':' ∉ before) :
    splitColon? (.ofList (before ++ ':' :: after)) = some (.ofList before, .ofList after) := by
  have hspan : (before ++ ':' :: after).span (· != ':') = (before, ':' :: after) := by
    have hbefore : ∀ c ∈ before, (c != ':') = true := by
      intro c hc
      rw [bne_iff_ne]
      rintro rfl
      exact h hc
    rw [List.span_eq_takeWhile_dropWhile, List.takeWhile_append_of_pos hbefore,
      List.dropWhile_append_of_pos hbefore]
    simp
  simp only [splitColon?, String.toList_ofList, hspan]

theorem splitColon?_eq_none {token : String} (h : ':' ∉ token.toList) :
    splitColon? token = none := by
  have hall : ∀ c ∈ token.toList, (c != ':') = true := by
    intro c hc
    rw [bne_iff_ne]
    rintro rfl
    exact h hc
  have hspan : token.toList.span (· != ':') = (token.toList, []) := by
    rw [List.span_eq_takeWhile_dropWhile, List.takeWhile_eq_self_iff.mpr hall,
      List.dropWhile_eq_nil_iff.mpr hall]
  simp only [splitColon?, hspan]

variable (s : Session)

theorem segment_hex (n : UInt16) : segment s (Text.hex 4 n.toNat) = .ok n := by
  have hn : n.toUInt32.toNat < UInt16.size := by
    rw [UInt16.toNat_toUInt32]
    exact n.toNat_lt
  simp only [segment, Text.readHex32_word, Option.filter_some, hn, decide_true, if_true,
    UInt16.toUInt16_toUInt32]

theorem offset_hex (n : UInt32) : offset s (Text.hex 8 n.toNat) = .ok (n, none) := by
  simp only [offset, Text.readHex32_long]

theorem splitColon?_text (a : Address) :
    splitColon? a.text = some (Text.hex 4 a.segment.toNat, Text.hex 8 a.offset.toNat) := by
  have hcolon : ':' ∉ Text.hexDigits 4 a.segment.toNat := by
    intro h
    exact Text.forall_mem_hexDigits (P := (· ≠ ':')) (by decide) _ _ _ h rfl
  have htext : a.text = .ofList (Text.hexDigits 4 a.segment.toNat ++
      ':' :: Text.hexDigits 8 a.offset.toNat) := by
    rw [Address.text, ← String.toList_inj]
    simp [Text.hex]
  rw [htext, splitColon?_append hcolon]
  rfl

/-- A printed address is read back, in code and in data. -/
theorem address_text (context : Context) (a : Address) : address s context a.text = .ok a := by
  simp only [address, splitColon?_text, segment_hex, offset_hex]
  rfl

/-! ## Bytes -/

theorem integer?_hexDigits {width n : Nat} (hwidth : width ≠ 0) (hn : n < 16 ^ width)
    (h32 : n < UInt32.size) :
    integer? ('0' :: Text.hexDigits width n) = some (UInt32.ofNat n).toInt32 := by
  have hread := Text.readHex32_hexDigits hwidth hn h32
  have hx : ∀ c ∈ Text.hexDigits width n, c ≠ 'x' :=
    Text.forall_mem_hexDigits (P := (· ≠ 'x')) (by decide) width n
  cases hdigits : Text.hexDigits width n with
  | nil =>
    have hlength := Text.length_hexDigits width n
    rw [hdigits] at hlength
    exact absurd hlength.symm hwidth
  | cons c rest =>
    rw [hdigits] at hread hx
    have hc : c ≠ 'x' := hx c (List.mem_cons_self ..)
    simp [integer?, hc, hread]

/-- A printed byte is read back behind a zero. -/
theorem byte_hex (b : UInt8) : byte ("0" ++ Text.hex 2 b.toNat) = .ok b := by
  have hb : b.toNat < 256 := b.toNat_lt
  have htext : ("0" ++ Text.hex 2 b.toNat).toList = '0' :: Text.hexDigits 2 b.toNat := by
    simp [Text.hex]
  have hinteger : integer ("0" ++ Text.hex 2 b.toNat) = .ok (Int32.ofNat b.toNat) := by
    have hread : integer? ('0' :: Text.hexDigits 2 b.toNat) = some (UInt32.ofNat b.toNat).toInt32 :=
      integer?_hexDigits (by decide) hb (by simp only [UInt32.size]; omega)
    simp only [integer, htext, hread, UInt32.toInt32_ofNat']
  have hvalue : (Int32.ofNat b.toNat).toInt = b.toNat := Int32.toInt_ofNat_of_lt (by omega)
  have hlow : ¬ Int32.ofNat b.toNat < 0 := by
    rw [Int32.lt_iff_toInt_lt, hvalue, Int32.toInt_zero]
    omega
  have hhigh : ¬ 255 < Int32.ofNat b.toNat := by
    rw [Int32.lt_iff_toInt_lt, hvalue, show (255 : Int32).toInt = 255 from rfl]
    omega
  rw [byte, hinteger]
  simp only [bind, Except.bind, hlow, hhigh, decide_false, Bool.or_false, Bool.false_eq_true,
    if_false, hvalue, Int.toNat_natCast, UInt8.ofNat_toNat]
  rfl

/-- Printed bytes are read back, if there are any. -/
theorem bytes_hex {values : List UInt8} (h : values ≠ []) :
    bytes (values.map fun b => "0" ++ Text.hex 2 b.toNat) = .ok values := by
  have hvalues : (values.map fun b => "0" ++ Text.hex 2 b.toNat).mapM byte = .ok values := by
    clear h
    induction values with
    | nil => rfl
    | cons b rest ih =>
      rw [List.map_cons, List.mapM_cons, byte_hex, ih]
      rfl
  have hne : values.isEmpty = false := List.isEmpty_eq_false_iff.mpr h
  rw [bytes, hvalues]
  simp only [bind, Except.bind, hne, Bool.false_eq_true, if_false]
  rfl

/-! ## Kinds -/

theorem breakpointKind_name {kind : BreakpointKind} (h : kind ≠ .unknown) :
    breakpointKind kind.name = .ok kind := by
  cases kind with
  | unknown => exact absurd rfl h
  | _ => rfl

/-! ## Registers -/

theorem register_name (r : Register) : register r.name = .ok r := by
  cases r <;> decide

theorem name_inj {r r' : Register} (h : r.name = r'.name) : r = r' := by
  have hread := register_name r
  rw [h, register_name] at hread
  cases hread
  rfl

end DebugConsole.Operand
