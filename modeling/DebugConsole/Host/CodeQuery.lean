import DebugConsole.Host.Dialogue
import DebugConsole.Instruction.StepOver

/-!
# Questions about code

What stepping over an instruction needs to know of the host.

* `Query.codeSize`: the size of the code that a selector names.
* `Query.stepOverTarget`: where execution resumes behind an instruction that comes back.
-/

namespace DebugConsole.Query

/-- The descriptor table that a selector points into. -/
def table (selector : UInt16) : Query (List Descriptor) :=
  if selectsLocal selector then ask .localTable else ask .globalTable

/-- The size of the code that a selector names; `fallback` where its slot describes no code. -/
def codeSize (selector : UInt16) (fallback : CodeSize) : Query CodeSize := do
  let table ← table selector
  return CodeSize.ofSelector table selector fallback

/-- Where execution resumes behind the instruction at an address, if it comes back. -/
def stepOverTarget (address : Address) (size : CodeSize) : Query (Option Address) := do
  let code ← ask (.readMemory address (Int32.ofNat Instruction.maxLength))
  return DebugConsole.stepOverTarget size address code

end DebugConsole.Query
