import DebugConsole.Machine.AssemblyLine
import DebugConsole.Machine.Breakpoint
import DebugConsole.Machine.Descriptor
import DebugConsole.Machine.Registers

/-!
# Listings

How the console shows what the host reports, one text per line.

* `Listing.registers`: five lines with every register and the letters of the set flags.
* `Listing.memory`: sixteen bytes a row, in hexadecimal and as characters.
* `Listing.descriptors`: one line per slot in use; a segment shows the selector that loads it.
-/

namespace DebugConsole.Listing

/-- A label and a 32-bit value. -/
private def long (label : String) (value : UInt32) : String :=
  label ++ " " ++ Text.hex 8 value.toNat

/-- A label and a 16-bit value. -/
private def short (label : String) (value : UInt16) : String :=
  label ++ " " ++ Text.hex 4 value.toNat

/-- The letters of the set flags, a space before each. -/
def flags (r : Registers) : String :=
  .ofList ((Flag.listed.filter r.has).flatMap fun f => [' ', f.letter])

/-- The register block. -/
def registers (r : Registers) : List String :=
  [" ".intercalate [long "EAX" r.eax, long "ESI" r.esi, short "DS" r.ds, short "ES" r.es],
   " ".intercalate [long "EBX" r.ebx, long "EDI" r.edi, short "FS" r.fs, short "GS" r.gs],
   " ".intercalate [long "ECX" r.ecx, long "EBP" r.ebp],
   " ".intercalate [long "EDX" r.edx, long "ESP" r.esp, short "SS" r.ss],
   " ".intercalate [short "CS" r.cs, long "EIP" r.eip] ++ flags r]

/-- The number of bytes in a row of a memory dump. -/
def rowLength : Nat := 16

/-- The rows of a byte sequence: all full but the last. -/
def rows (bytes : List UInt8) : List (List UInt8) :=
  match bytes with
  | [] => []
  | b :: rest => (b :: rest).take rowLength :: rows (rest.drop (rowLength - 1))
termination_by bytes.length
decreasing_by simp only [List.length_drop, List.length_cons]; omega

/-- The hexadecimal part of a row: a dash joins the bytes of a pair, a space follows it. -/
def hexPart : List UInt8 → String
  | [] => ""
  | [b] => Text.hex 2 b.toNat ++ "-"
  | b :: c :: rest => Text.hex 2 b.toNat ++ "-" ++ Text.hex 2 c.toNat ++ " " ++ hexPart rest

/-- The character that shows a byte: itself if it is printable ASCII, else a point. -/
def character (b : UInt8) : Char :=
  if 0x20 ≤ b && b ≤ 0x7E then Char.ofNat b.toNat else '.'

/-- One row of a memory dump, with its address. -/
def memoryRow (a : Address) (row : List UInt8) : String :=
  a.text ++ " " ++ Text.padEnd (3 * rowLength) (hexPart row) ++ " " ++ .ofList (row.map character)

/-- A memory dump from an address on. -/
def memory (a : Address) (bytes : List UInt8) : List String :=
  (rows bytes).mapIdx fun i row => memoryRow (a.advance (rowLength * i)) row

/-- Disassembled instructions. -/
def disassembly (items : List AssemblyLine) : List String :=
  items.map fun item => item.address.text ++ " " ++ item.text

/-- One breakpoint. -/
def breakpoint (b : Breakpoint) : String :=
  " ".intercalate
    [b.address.text, b.kind.name, Text.hex 2 b.ah.toNat, Text.hex 2 b.al.toNat]

/-- Breakpoints, one a line. -/
def breakpoints (items : List Breakpoint) : List String :=
  items.map breakpoint

/-- Which table a descriptor is in. -/
inductive Table where
  | globalTable | localTable
  deriving DecidableEq, Repr

/-- The selector that loads a slot: its index, its table and its privilege level. -/
def selectorOf (table : Table) (index : Nat) (dpl : UInt8) : UInt16 :=
  UInt16.ofNat (index <<< 3 ||| dpl.toNat ||| (if table = .localTable then 4 else 0))

/-- The code or entry size of a slot, and its privilege level. -/
private def sizeAndLevel (big : Bool) (dpl : UInt8) : String :=
  (if big then "32-bit" else "16-bit") ++ " DPL " ++ toString dpl.toNat

/-- One slot of a table. -/
def descriptor (table : Table) (index : Nat) : Descriptor → String
  | .gate g =>
    g.kind.name ++ " " ++ Text.hex 4 g.selector.toNat ++ ":" ++ Text.hex 8 g.offset.toNat ++ " "
      ++ sizeAndLevel g.big g.dpl
  | .segment s =>
    Text.hex 4 (selectorOf table index s.dpl).toNat ++ " " ++ s.kind.name
      ++ " base " ++ Text.hex 8 s.base.toNat ++ " limit " ++ Text.hex 8 s.limit.toNat ++ " "
      ++ sizeAndLevel s.big s.dpl

/-- The slots of a table that are in use, one a line. -/
def descriptors (table : Table) (slots : List Descriptor) : List String :=
  (slots.zipIdx.filter fun (slot, _) => slot.kind ≠ .system .invalid).map
    fun (slot, index) => descriptor table index slot

end DebugConsole.Listing
