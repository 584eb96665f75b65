import DebugConsole.Proofs.Wire.RoundTrip

/-!
# Signatures

A message names the shape of its body by a signature, and the body is read by that.

- **Signatures** (`Shape.ofSignature?`): the shape that a text stands for, if it is a signature. A
  shape is read back from its own signature (`ofSignature?_signature`) if it is the one that the
  signature would be read as (`Shape.Canonical`).
- **Bodies** (`unmarshal?`): the value that a whole body stands for, by its signature.
-/

namespace DebugConsole.Wire

namespace Shape

/-! ## Signatures -/

/-- The types that a shape puts one after the other. -/
def types : Shape → List Shape
  | .unit => []
  | .both first second => first.types ++ second.types
  | s => [s]

/-- The shape of some types, one after the other. -/
def sequence : List Shape → Shape
  | [] => .unit
  | [s] => s
  | s :: rest => .both s (sequence rest)

/-- The type that a character alone stands for. -/
def basic? : Char → Option Shape
  | 'y' => some .byte
  | 'b' => some .boolean
  | 'n' => some .int16
  | 'q' => some .uint16
  | 'i' => some .int32
  | 'u' => some .uint32
  | 's' => some .text
  | _ => none

/-- The types in front of which a character is read, and the types behind each structure that is
closed there but not opened yet. -/
abbrev Frames := List Shape × List (List Shape)

/-- The types with one more character in front. -/
def place : Char → Frames → Option Frames
  | ')', (types, outer) => some ([], types :: outer)
  | '(', (s :: fields, types :: outer) => some (.struct (sequence (s :: fields)) :: types, outer)
  | 'a', (element :: types, outer) => some (.array element :: types, outer)
  | c, (types, outer) => (basic? c).map fun s => (s :: types, outer)

/-- The types that characters stand for. An array is written in front of its element, so the end is
read first. -/
def parse : List Char → Option Frames
  | [] => some ([], [])
  | c :: rest => (parse rest).bind (place c)

/-- The shape that a text stands for, if it is a signature. -/
def ofSignature? (signature : String) : Option Shape :=
  match parse signature.toList with
  | some (types, []) => some (sequence types)
  | _ => none

/-- A shape as a signature is read: the first of two shapes is a single type, and no structure is
empty. -/
def Canonical : Shape → Prop
  | .unit | .byte | .boolean | .int16 | .uint16 | .int32 | .uint32 | .text => True
  | .array element => element.Canonical ∧ element.types = [element]
  | .struct fields => fields.Canonical ∧ fields.types ≠ []
  | .both first second =>
    first.Canonical ∧ first.types = [first] ∧ second.Canonical ∧ second.types ≠ []

theorem sequence_types {s : Shape} (h : s.Canonical) : sequence s.types = s := by
  induction s with
  | both first second _ ihs =>
    obtain ⟨-, hfirst, hsecond, hne⟩ := h
    obtain ⟨t, rest, ht⟩ := List.exists_cons_of_ne_nil hne
    rw [types, hfirst, ht, List.singleton_append, sequence, ← ht, ihs hsecond]
    simp
  | _ => rfl

theorem parse_signature {s : Shape} (h : s.Canonical) {rest : List Char} {behind : List Shape}
    {outer : List (List Shape)} (hrest : parse rest = some (behind, outer)) :
    parse (s.signature.toList ++ rest) = some (s.types ++ behind, outer) := by
  induction s generalizing rest behind outer with
  | unit => exact hrest
  | byte | boolean | int16 | uint16 | int32 | uint32 | text =>
    show (parse rest).bind _ = _
    rw [hrest]
    rfl
  | array element ih =>
    obtain ⟨helement, hone⟩ := h
    have htext : (Shape.array element).signature.toList ++ rest =
        'a' :: (element.signature.toList ++ rest) := by simp [signature]
    have hparse := ih helement hrest
    rw [hone] at hparse
    rw [htext, parse, hparse]
    rfl
  | struct fields ih =>
    obtain ⟨hfields, hne⟩ := h
    obtain ⟨t, more, ht⟩ := List.exists_cons_of_ne_nil hne
    have htext : (Shape.struct fields).signature.toList ++ rest =
        '(' :: (fields.signature.toList ++ ')' :: rest) := by simp [signature]
    have hclosed : parse (')' :: rest) = some ([], behind :: outer) := by
      rw [parse, hrest]
      rfl
    have hparse := ih hfields hclosed
    rw [List.append_nil, ht] at hparse
    have hsequence : sequence (t :: more) = fields := ht ▸ sequence_types hfields
    rw [htext, parse, hparse, ← hsequence]
    rfl
  | both first second ihf ihs =>
    obtain ⟨hfirst, -, hsecond, -⟩ := h
    have hparse := ihf hfirst (ihs hsecond hrest)
    rw [signature, String.toList_append, List.append_assoc, hparse, types, List.append_assoc]

/-- A shape is read back from its signature. -/
theorem ofSignature?_signature {s : Shape} (h : s.Canonical) :
    ofSignature? s.signature = some s := by
  have hparse : parse s.signature.toList = some (s.types, []) := by
    have hempty : parse [] = some ([], []) := rfl
    simpa using parse_signature h hempty
  simp only [ofSignature?, hparse, sequence_types h]

end Shape

/-! ## Bodies -/

/-- The value that a body stands for by its signature; nothing may be left over. -/
def unmarshal? (signature : String) (body : List UInt8) : Option ((s : Shape) × s.Value) := do
  let s ← Shape.ofSignature? signature
  match StateT.run s.read ⟨0, body⟩ with
  | .ok (v, ⟨_, []⟩) => some ⟨s, v⟩
  | _ => none

/-- A written value is read back by its signature. -/
theorem unmarshal?_write {s : Shape} (hcanonical : s.Canonical) (hsolid : s.SolidArrays)
    {v : s.Value} (hv : s.NulFree v) (hlength : (s.write v 0).length < 2 ^ 32) :
    unmarshal? s.signature (s.write v 0) = some ⟨s, v⟩ := by
  have hread : StateT.run s.read ⟨0, s.write v 0⟩ = .ok (v, ⟨0 + (s.write v 0).length, []⟩) := by
    have := Shape.readsBack hsolid hv 0 hlength []
    rwa [List.append_nil] at this
  unfold unmarshal?
  rw [Shape.ofSignature?_signature hcanonical, Option.bind_eq_bind, Option.bind_some, hread]

example : unmarshal? "yi" [5, 0, 0, 0, 0xFF, 0xFF, 0xFF, 0xFF] =
    some ⟨.both .byte .int32, (5, -1)⟩ := by rfl

end DebugConsole.Wire
