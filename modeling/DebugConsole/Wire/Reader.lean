/-!
# Reading the wire form

A reader knows how far it is from the start of the message, since every value is aligned to that.

* `Reader.take`: the next bytes.
* `Reader.align`: passes over the padding in front of a value, which must be zero.
* `Reader.items`: the elements of an array, up to the end that its length gives.
* `littleEndian`, `fromLittleEndian`: numbers as bytes, the lowest first.
-/

namespace DebugConsole.Wire

/-- Why bytes are no value of the expected type. -/
inductive WireError where
  | truncated
  | badPadding
  | badBoolean
  | badText
  /-- An element reaches beyond the end of its array. -/
  | overrun
  | badRegisterTag (tag : UInt8)
  deriving DecidableEq, Repr

/-- The wording of a fault. -/
def WireError.message : WireError → String
  | .truncated => "unexpected end of message"
  | .badPadding => "padding is not zero"
  | .badBoolean => "boolean is neither 0 nor 1"
  | .badText => "text is not valid UTF-8"
  | .overrun => "array element exceeds the array"
  | .badRegisterTag tag => "invalid register tag " ++ toString tag.toNat

/-- A number as `width` bytes, the lowest first. -/
def littleEndian : Nat → Nat → List UInt8
  | 0, _ => []
  | width + 1, n => UInt8.ofNat n :: littleEndian width (n / 256)

/-- The number that bytes stand for, the lowest first. -/
def fromLittleEndian : List UInt8 → Nat
  | [] => 0
  | b :: rest => b.toNat + 256 * fromLittleEndian rest

/-- The number of padding bytes at an offset in front of a value with some alignment. -/
def paddingLength (alignment offset : Nat) : Nat :=
  (alignment - offset % alignment) % alignment

/-- The bytes that are still to be read, and their distance from the start of the message. -/
structure Cursor where
  offset : Nat
  rest : List UInt8
  deriving DecidableEq, Repr

/-- A computation that reads values from a message. -/
abbrev Reader := StateT Cursor (Except WireError)

namespace Reader

variable {α : Type}

/-- The next `n` bytes. -/
def take (n : Nat) : Reader (List UInt8) := fun c =>
  let bytes := c.rest.take n
  if bytes.length = n then .ok (bytes, ⟨c.offset + n, c.rest.drop n⟩) else .error .truncated

/-- Passes over the padding in front of a value; it must be zero. -/
def align (alignment : Nat) : Reader Unit := do
  let padding ← take (paddingLength alignment (← get).offset)
  unless padding.all (· = 0) do throw .badPadding

/-- A number of `width` bytes, aligned to its width. -/
def number (width : Nat) : Reader Nat := do
  align width
  return fromLittleEndian (← take width)

/-- Passes over one byte without looking at it, even where the message ends. -/
def passOver : Reader Unit :=
  modify fun c => ⟨c.offset + 1, c.rest.drop 1⟩

/-- Elements up to the offset `stop`, at most `fuel` of them. -/
def itemsUpTo (element : Reader α) (stop : Nat) : Nat → Reader (List α)
  | 0 => do
    if (← get).offset = stop then return [] else throw .overrun
  | fuel + 1 => do
    if (← get).offset = stop then return []
    let item ← element
    if stop < (← get).offset then throw .overrun
    return item :: (← itemsUpTo element stop fuel)

/-- The elements of an array: its length in bytes, padding up to the first element, which the length
does not count, and the elements. Every element takes at least one byte. -/
def items (alignment : Nat) (element : Reader α) : Reader (List α) := do
  let length ← number 4
  align alignment
  itemsUpTo element ((← get).offset + length) length

/-- Reads from the start of a message; bytes after the value are ignored. -/
def run (reader : Reader α) (bytes : List UInt8) : Except WireError α :=
  (StateT.run reader ⟨0, bytes⟩).map (·.1)

end Reader

end DebugConsole.Wire
