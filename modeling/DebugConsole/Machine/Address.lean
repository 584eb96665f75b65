import DebugConsole.Text.Number

/-!
# Addresses

A segmented address: a selector and an offset into its segment.

* `Address.text`: four hexadecimal digits, a colon and eight hexadecimal digits.
* `Address.advance`: the address some bytes further on, in the same segment.
-/

namespace DebugConsole

/-- A place in the memory of the debugged machine. -/
structure Address where
  segment : UInt16
  offset : UInt32
  deriving DecidableEq, Repr, Inhabited

namespace Address

/-- The printed form, `SSSS:OOOOOOOO`. -/
def text (a : Address) : String :=
  Text.hex 4 a.segment.toNat ++ ":" ++ Text.hex 8 a.offset.toNat

/-- The address `n` bytes further on; offsets wrap at 2^32. -/
def advance (a : Address) (n : Nat) : Address :=
  { a with offset := a.offset + UInt32.ofNat n }

end Address

end DebugConsole
