import DebugConsole.Text.Utf8
import DebugConsole.Wire.Reader

/-!
# Shapes of wire values

The types of the message bus. One grammar gives the signature, the values, how they are written and
how they are read.

* `Shape.Value`: the values of a shape.
* `Shape.signature`: the text that stands for a shape in a message.
* `Shape.write`, `Shape.read`: the wire form, little endian. A value is aligned to its size and a
  structure to eight bytes.
-/

namespace DebugConsole.Wire

/-- The types that messages are made of. -/
inductive Shape where
  /-- No value. -/
  | unit
  | byte | boolean | int16 | uint16 | int32 | uint32 | text
  | array (element : Shape)
  | struct (fields : Shape)
  /-- One value after the other. -/
  | both (first second : Shape)
  deriving DecidableEq, Repr

namespace Shape

/-- The values of a shape. -/
@[reducible] def Value : Shape → Type
  | .unit => Unit
  | .byte => UInt8
  | .boolean => Bool
  | .int16 => Int16
  | .uint16 => UInt16
  | .int32 => Int32
  | .uint32 => UInt32
  | .text => String
  | .array element => List element.Value
  | .struct fields => fields.Value
  | .both first second => first.Value × second.Value

/-- The text that stands for a shape in a message. -/
def signature : Shape → String
  | .unit => ""
  | .byte => "y"
  | .boolean => "b"
  | .int16 => "n"
  | .uint16 => "q"
  | .int32 => "i"
  | .uint32 => "u"
  | .text => "s"
  | .array element => "a" ++ element.signature
  | .struct fields => "(" ++ fields.signature ++ ")"
  | .both first second => first.signature ++ second.signature

/-- The number of bytes that the first value of a shape is aligned to. -/
def alignment : Shape → Nat
  | .unit | .byte => 1
  | .int16 | .uint16 => 2
  | .boolean | .int32 | .uint32 | .text | .array _ => 4
  | .struct _ => 8
  | .both first _ => first.alignment

/-- Padding at an offset in front of a value. -/
def padding (alignment offset : Nat) : List UInt8 :=
  List.replicate (paddingLength alignment offset) 0

/-- A number of `width` bytes at an offset, aligned to its width. -/
def writeNumber (width n offset : Nat) : List UInt8 :=
  padding width offset ++ littleEndian width n

/-- Elements one after the other, the first at `offset`. -/
def writeItems {α : Type} (element : α → Nat → List UInt8) : List α → Nat → List UInt8
  | [], _ => []
  | item :: rest, offset =>
    let bytes := element item offset
    bytes ++ writeItems element rest (offset + bytes.length)

/-- An array at an offset. -/
def writeArray {α : Type} (alignment : Nat) (element : α → Nat → List UInt8) (items : List α)
    (offset : Nat) : List UInt8 :=
  let start := offset + paddingLength 4 offset + 4
  let gap := padding alignment start
  let body := writeItems element items (start + gap.length)
  writeNumber 4 body.length offset ++ gap ++ body

/-- The wire form of a value at an offset. -/
def write : (s : Shape) → s.Value → Nat → List UInt8
  | .unit, _, _ => []
  | .byte, b, _ => [b]
  | .boolean, b, offset => writeNumber 4 b.toNat offset
  | .int16, n, offset => writeNumber 2 n.toUInt16.toNat offset
  | .uint16, n, offset => writeNumber 2 n.toNat offset
  | .int32, n, offset => writeNumber 4 n.toUInt32.toNat offset
  | .uint32, n, offset => writeNumber 4 n.toNat offset
  | .text, s, offset =>
    let bytes := Utf8.encode s
    writeNumber 4 bytes.length offset ++ bytes ++ [0]
  | .array element, items, offset => writeArray element.alignment element.write items offset
  | .struct fields, v, offset =>
    padding 8 offset ++ fields.write v (offset + paddingLength 8 offset)
  | .both first second, (v, w), offset =>
    let bytes := first.write v offset
    bytes ++ second.write w (offset + bytes.length)

/-- A boolean: a number that must be 0 or 1. -/
def readBoolean : Reader Bool := do
  match ← Reader.number 4 with
  | 0 => return false
  | 1 => return true
  | _ => throw .badBoolean

/-- A text: its length, its bytes and a terminator that nothing depends on. -/
def readText : Reader String := do
  let length ← Reader.number 4
  let bytes ← Reader.take length
  if bytes.contains 0 then throw .badText
  Reader.passOver
  match Utf8.decode? bytes with
  | some s => return s
  | none => throw .badText

/-- Reads a value of a shape. -/
def read : (s : Shape) → Reader s.Value
  | .unit => return ()
  | .byte => return UInt8.ofNat (← Reader.number 1)
  | .boolean => readBoolean
  | .int16 => return (UInt16.ofNat (← Reader.number 2)).toInt16
  | .uint16 => return UInt16.ofNat (← Reader.number 2)
  | .int32 => return (UInt32.ofNat (← Reader.number 4)).toInt32
  | .uint32 => return UInt32.ofNat (← Reader.number 4)
  | .text => readText
  | .array element => Reader.items element.alignment element.read
  | .struct fields => do
    Reader.align 8
    fields.read
  | .both first second => do
    let v ← first.read
    let w ← second.read
    return (v, w)

end Shape

end DebugConsole.Wire
