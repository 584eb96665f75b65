import DebugConsole.Machine.Address

/-!
# Breakpoints

* `BreakpointKind.tag`, `BreakpointKind.ofTag`: the number of a kind on the wire. Every number that
  stands for no kind reads as `unknown`, and `unknown` is written as 255.
-/

namespace DebugConsole

/-- What makes a breakpoint stop the machine. -/
inductive BreakpointKind where
  | normal | read | write | interrupt | interruptWithAH | interruptWithAX | ephemeral
  | unknown
  deriving DecidableEq, Repr, Inhabited

namespace BreakpointKind

/-- The printed name. -/
def name : BreakpointKind → String
  | .normal => "Normal"
  | .read => "Read"
  | .write => "Write"
  | .interrupt => "Interrupt"
  | .interruptWithAH => "InterruptWithAH"
  | .interruptWithAX => "InterruptWithAX"
  | .ephemeral => "Ephemeral"
  | .unknown => "Unknown"

/-- The number that stands for a kind. -/
def tag : BreakpointKind → UInt8
  | .normal => 0
  | .read => 1
  | .write => 2
  | .interrupt => 3
  | .interruptWithAH => 4
  | .interruptWithAX => 5
  | .ephemeral => 6
  | .unknown => 255

/-- The kind a number stands for. -/
def ofTag (tag : UInt8) : BreakpointKind :=
  match tag.toNat with
  | 0 => .normal
  | 1 => .read
  | 2 => .write
  | 3 => .interrupt
  | 4 => .interruptWithAH
  | 5 => .interruptWithAX
  | 6 => .ephemeral
  | _ => .unknown

@[simp] theorem ofTag_tag (k : BreakpointKind) : ofTag k.tag = k := by
  cases k <;> rfl

end BreakpointKind

/-- A breakpoint; `ah` and `al` qualify the interrupt kinds only. -/
structure Breakpoint where
  address : Address
  kind : BreakpointKind
  ah : UInt8
  al : UInt8
  deriving DecidableEq, Repr, Inhabited

end DebugConsole
