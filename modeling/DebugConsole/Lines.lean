import DebugConsole.Text.Blank
import DebugConsole.Text.Utf8

/-!
# Reading lines

Input arrives in chunks that may end anywhere, and may break off with a fault.

* `Input.lines`: the lines of an input, each decoded on its own. A line ends with a line feed or at
  a clean end of input; what a fault cuts off is no line.
-/

namespace DebugConsole

/-- A piece of input. -/
inductive Chunk where
  | bytes (bytes : List UInt8)
  /-- Reading failed; nothing comes after that. -/
  | fault
  deriving DecidableEq, Repr

namespace Input

/-- The line feed. -/
def lineFeed : UInt8 := 10

/-- Everything that could be read, and whether the input ended cleanly. -/
def contents : List Chunk → List UInt8 × Bool
  | [] => ([], true)
  | .bytes bytes :: rest =>
    let (more, clean) := contents rest
    (bytes ++ more, clean)
  | .fault :: _ => ([], false)

/-- The byte sequences that a line feed ends, line feeds included, and the bytes behind the last. -/
def splitLines : List UInt8 → List (List UInt8) × List UInt8
  | [] => ([], [])
  | b :: rest =>
    match splitLines rest with
    | (lines, pending) =>
      if b = lineFeed then ([b] :: lines, pending)
      else
        match lines with
        | [] => ([], b :: pending)
        | line :: lines => ((b :: line) :: lines, pending)

/-- A line's text without the carriage returns and the line feed at its end. -/
def lineText (line : List UInt8) : String :=
  Text.trimEnd (fun c => c = '\n' || c = '\r') (Utf8.decodeLossy line)

/-- The lines of an input. -/
def lines (input : List Chunk) : List String :=
  let (bytes, clean) := contents input
  let (complete, pending) := splitLines bytes
  let last := if clean && !pending.isEmpty then [pending] else []
  (complete ++ last).map lineText

end Input

end DebugConsole
