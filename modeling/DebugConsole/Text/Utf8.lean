/-!
# UTF-8

A decoder that takes one byte at a time and remembers the character it is inside of. A byte that
cannot continue that character ends it, is reported as one malformed piece, and is looked at again
as the start of the next one; so each maximal malformed prefix is one piece, and an ASCII byte is
never swallowed.

* `Utf8.scan`: the characters and malformed pieces of a byte sequence.
* `Utf8.decodeLossy`: U+FFFD for each malformed piece.
* `Utf8.decode?`: the text, if nothing is malformed.
* `Utf8.encode`: the bytes of a text.
-/

namespace DebugConsole.Utf8

/-- A character whose first bytes have been read. -/
structure Pending where
  /-- The bits read so far. -/
  bits : Nat
  /-- How many bytes are still to come after the next one. -/
  more : Nat
  /-- The least value the next byte may have. -/
  low : UInt8
  /-- The greatest value the next byte may have. -/
  high : UInt8
  deriving DecidableEq, Repr

/-- What one more byte completes, and the character begun. -/
abbrev Step := List (Option Char) × Option Pending

/-- A byte between two characters. -/
def start (b : UInt8) : Step :=
  let n := b.toNat
  if b < 0x80 then ([some (Char.ofNat n)], none)
  else if 0xC2 ≤ b && b ≤ 0xDF then ([], some ⟨n - 0xC0, 0, 0x80, 0xBF⟩)
  else if b = 0xE0 then ([], some ⟨0, 1, 0xA0, 0xBF⟩)
  else if b = 0xED then ([], some ⟨0xD, 1, 0x80, 0x9F⟩)
  else if 0xE1 ≤ b && b ≤ 0xEF then ([], some ⟨n - 0xE0, 1, 0x80, 0xBF⟩)
  else if b = 0xF0 then ([], some ⟨0, 2, 0x90, 0xBF⟩)
  else if 0xF1 ≤ b && b ≤ 0xF3 then ([], some ⟨n - 0xF0, 2, 0x80, 0xBF⟩)
  else if b = 0xF4 then ([], some ⟨4, 2, 0x80, 0x8F⟩)
  else ([none], none)

/-- One byte: it continues the pending character, or ends it as malformed and starts anew. -/
def step : Option Pending → UInt8 → Step
  | none, b => start b
  | some p, b =>
    if p.low ≤ b && b ≤ p.high then
      let bits := p.bits * 64 + (b.toNat - 0x80)
      match p.more with
      | 0 => ([some (Char.ofNat bits)], none)
      | more + 1 => ([], some ⟨bits, more, 0x80, 0xBF⟩)
    else
      let (pieces, pending) := start b
      (none :: pieces, pending)

/-- The pieces of a byte sequence, from inside a character: `none` is a malformed one. -/
def scanFrom : Option Pending → List UInt8 → List (Option Char)
  | none, [] => []
  | some _, [] => [none]
  | pending, b :: rest =>
    let (pieces, pending) := step pending b
    pieces ++ scanFrom pending rest

/-- The characters of a byte sequence, `none` for each malformed piece. -/
def scan (bytes : List UInt8) : List (Option Char) :=
  scanFrom none bytes

/-- The text of a byte sequence, with U+FFFD for each malformed piece. -/
def decodeLossy (bytes : List UInt8) : String :=
  .ofList ((scan bytes).map (·.getD '\uFFFD'))

/-- The text of a byte sequence without malformed pieces. -/
def decode? (bytes : List UInt8) : Option String :=
  ((scan bytes).mapM id).map String.ofList

/-- The bytes of a text. -/
def encode (s : String) : List UInt8 :=
  s.toList.flatMap String.utf8EncodeChar

end DebugConsole.Utf8
