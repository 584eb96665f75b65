/-!
# What the operator sees

* `Output`: one thing the console writes, a line with its severity or the wish to clear.
* `History`: the newest lines, up to a capacity, with a revision that counts the changes.
* `Terminal.write`: output in line mode; errors go to the second stream.
-/

namespace DebugConsole

/-- How much a line matters. -/
inductive Severity where
  | debug | info | warn | error
  deriving DecidableEq, Repr, Inhabited

/-- A line of output. -/
structure Entry where
  severity : Severity
  text : String
  deriving DecidableEq, Repr, Inhabited

/-- One thing that the console writes. -/
inductive Output where
  | line (entry : Entry)
  | clear
  deriving DecidableEq, Repr

namespace Output

/-- An ordinary line. -/
def info (text : String) : Output := .line ⟨.info, text⟩

/-- A line that reports an error. -/
def error (text : String) : Output := .line ⟨.error, text⟩

/-- A line that echoes what was typed. -/
def debug (text : String) : Output := .line ⟨.debug, text⟩

end Output

/-- The newest lines of output, oldest first. -/
structure History where
  capacity : Nat
  entries : List Entry
  /-- Grows with every change and wraps at 2^64. -/
  revision : UInt64
  deriving DecidableEq, Repr

namespace History

/-- An empty history that holds at least one line. -/
def empty (capacity : Nat) : History :=
  ⟨max capacity 1, [], 0⟩

/-- The history with one more line; the oldest ones give way. -/
def add (h : History) (e : Entry) : History :=
  let entries := h.entries ++ [e]
  { h with entries := entries.drop (entries.length - h.capacity), revision := h.revision + 1 }

/-- The history without lines. -/
def clear (h : History) : History :=
  { h with entries := [], revision := h.revision + 1 }

/-- The history after one more output. -/
def write (h : History) : Output → History
  | .line e => h.add e
  | .clear => h.clear

/-- The history after some output, in order. -/
def writeAll (h : History) (output : List Output) : History :=
  output.foldl write h

end History

/-- What has been written to the two streams of a terminal. -/
structure Terminal where
  out : String := ""
  err : String := ""
  deriving DecidableEq, Repr

namespace Terminal

/-- The control sequence that erases the screen and moves to its first cell. -/
def clearScreen : String := "\x1b[2J\x1b[H"

/-- The terminal after one more output. -/
def write (t : Terminal) : Output → Terminal
  | .line ⟨.error, text⟩ => { t with err := t.err ++ text ++ "\n" }
  | .line e => { t with out := t.out ++ e.text ++ "\n" }
  | .clear => { t with out := t.out ++ clearScreen }

/-- The terminal after some output, in order. -/
def writeAll (t : Terminal) (output : List Output) : Terminal :=
  output.foldl write t

end Terminal

end DebugConsole
