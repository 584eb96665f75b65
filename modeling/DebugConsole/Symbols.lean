import DebugConsole.Files
import DebugConsole.Text.Blank
import DebugConsole.Text.Number
import DebugConsole.Text.Utf8

/-!
# Symbol files

A line names a symbol and gives its offset in hexadecimal; `#` starts a comment, and a name that
comes again gets the later offset.

* `SymbolTable.parse`: the table that a text defines, or the first line that is wrong.
* `SymbolTable.ofFile`: the same from the bytes of a file.
* `SymbolError.chain`, `SymbolFileError.chain`: the messages of a fault, outermost first.
-/

namespace DebugConsole

/-- Symbols with their offsets, no name twice. -/
structure SymbolTable where
  entries : List (String × UInt32) := []
  deriving DecidableEq, Repr

namespace SymbolTable

/-- The table with one more symbol, which replaces an earlier one of the name. -/
def insert (t : SymbolTable) (name : String) (offset : UInt32) : SymbolTable :=
  ⟨(name, offset) :: t.entries.filter (·.1 ≠ name)⟩

/-- The offset of a symbol. -/
def find? (t : SymbolTable) (name : String) : Option UInt32 :=
  t.entries.lookup name

/-- The number of symbols. -/
def size (t : SymbolTable) : Nat :=
  t.entries.length

end SymbolTable

/-- Why a line of a symbol file is wrong. -/
inductive SymbolFault where
  /-- Neither empty nor a name and an offset. -/
  | fieldCount
  /-- The offset, as it is written, is no number of 32 bits. -/
  | badOffset (offset : String) (cause : NumberError)
  deriving DecidableEq, Repr

/-- The first wrong line of a symbol file, counted from one. -/
structure SymbolError where
  line : Nat
  fault : SymbolFault
  deriving DecidableEq, Repr

/-- The messages of a wrong line, outermost first. -/
def SymbolError.chain (e : SymbolError) : List String :=
  let place := "line " ++ toString e.line ++ ": "
  match e.fault with
  | .fieldCount => [place ++ "expected `name offset`"]
  | .badOffset offset cause => [place ++ "bad offset \"" ++ offset ++ "\"", cause.message]

namespace SymbolTable

/-- A line up to its comment. -/
def withoutComment (line : String) : String :=
  .ofList (line.toList.takeWhile (· != '#'))

/-- The digits of an offset: `0x` in front of them is allowed. -/
def offsetDigits (offset : String) : String :=
  match offset.toList with
  | '0' :: 'x' :: digits => .ofList digits
  | _ => offset

/-- The symbol that a line defines; none if the line is empty up to its comment. -/
def parseLine (line : String) : Except SymbolFault (Option (String × UInt32)) :=
  match Text.fields (withoutComment line) with
  | [] => .ok none
  | [name, offset] =>
    match Text.readUnsigned 16 UInt32.size (offsetDigits offset) with
    | .ok value => .ok (some (name, UInt32.ofNat value))
    | .error cause => .error (.badOffset offset cause)
  | _ => .error .fieldCount

/-- The table with the symbols of some lines, the first of which has number `n`. -/
def parseLines (t : SymbolTable) (n : Nat) : List String → Except SymbolError SymbolTable
  | [] => .ok t
  | line :: rest =>
    match parseLine line with
    | .ok none => parseLines t (n + 1) rest
    | .ok (some (name, offset)) => parseLines (t.insert name offset) (n + 1) rest
    | .error fault => .error ⟨n, fault⟩

/-- The table that a text defines. -/
def parse (text : String) : Except SymbolError SymbolTable :=
  parseLines {} 1 (Text.lines text)

end SymbolTable

/-- Why a symbol file could not be loaded. -/
inductive SymbolFileError where
  | unreadable (path : String) (cause : FileError)
  | malformed (path : String) (cause : SymbolError)
  deriving DecidableEq, Repr

/-- The messages of a symbol file that could not be loaded, outermost first. -/
def SymbolFileError.chain : SymbolFileError → List String
  | .unreadable path cause => ["reading symbols from " ++ path, cause.message]
  | .malformed path cause => ("parsing " ++ path) :: cause.chain

/-- The table that a file defines, given what reading the file gave. -/
def SymbolTable.ofFile (path : String) (contents : Except FileError (List UInt8)) :
    Except SymbolFileError SymbolTable :=
  match contents with
  | .error cause => .error (.unreadable path cause)
  | .ok bytes =>
    match Utf8.decode? bytes with
    | none => .error (.unreadable path .notText)
    | some text => (SymbolTable.parse text).mapError (.malformed path)

end DebugConsole
