import DebugConsole.Command.Action
import DebugConsole.Command.Table
import DebugConsole.Host.CodeQuery

/-!
# The built-in commands

* `builtinTable`: all commands of the console.
* Output follows the last answer of the host, so a failed command has printed nothing. Operands are
  read before the host is asked; only the address that `disassemble` uses if none is given comes
  from the host first.
-/

namespace DebugConsole

namespace Builtin

open DebugConsole.Action

/-- How many instructions are disassembled if no count is given. -/
def defaultInstructions : Int32 := 10

/-- How many bytes are dumped if no length is given. -/
def defaultBytes : Int32 := 64

/-! ## The console itself -/

/-- Prints the help. -/
def help : Action Unit := do
  print (← get).help

/-- Clears the output. -/
def clear : Action Unit :=
  write [.clear]

/-- Leaves the console. -/
def leave : Action Unit :=
  modify fun context => { context with leaving := true }

/-! ## Running and stepping -/

/-- Subscribes to stop notifications. -/
def connect : Action Unit :=
  ask .connect

/-- Resumes execution. -/
def resume : Action Unit :=
  ask .resume

/-- Pauses execution. -/
def pause : Action Unit := do
  showRegisters (← ask .pause)

/-- Executes one instruction. -/
def stepIn : Action Unit := do
  showRegisters (← ask .stepIn)

/-- Executes a number of instructions. -/
def stepMultiple : Action Unit := do
  let count ← parsed (Operand.count (← nextArgument))
  showRegisters (← ask (.stepMultiple count))

/-- Runs until an address is reached. -/
def runTo : Action Unit := do
  let address ← nextAddress .code
  ask (.runTo address)

/-- Executes one instruction, but runs over one that comes back. -/
def stepOver : Action Unit := do
  let registers ← ask .getState
  let size ← query (Query.codeSize registers.ip.segment (← session).codeSize)
  match ← query (Query.stepOverTarget registers.ip size) with
  | some target =>
    ask (.runTo target)
    print ["Running to " ++ target.text]
  | none => stepIn

/-! ## Looking -/

/-- Shows the registers. -/
def state : Action Unit := do
  showRegisters (← ask .getState)

/-- The address of the next instruction; the first use fetches it. -/
def currentIp : Action Address := do
  unless (← session).synced do
    updateSession (← ask .getState)
  return (← session).current.ip

/-- Disassembles from an address on. -/
def disassemble : Action Unit := do
  let word ← nextArgument
  let address ←
    if word.isEmpty then currentIp
    else do parsed (Operand.address (← session) .code word)
  let count ← optional defaultInstructions Operand.count
  print (Listing.disassembly (← ask (.disassemble address count)))

/-- Dumps memory. -/
def readMemory : Action Unit := do
  let address ← nextAddress .data
  let length ← optional defaultBytes Operand.count
  print (Listing.memory address (← ask (.readMemory address length)))

/-- Finds bytes in memory. -/
def searchMemory : Action Unit := do
  let start ← nextAddress .data
  let length ← parsed (Operand.searchLength (← nextArgument))
  let pattern ← parsed (Operand.bytes (← restArguments))
  let found ← ask (.searchMemory start length pattern 0)
  print (if found.isEmpty then ["Not found"] else found.map Address.text)

/-- Lists the breakpoints. -/
def listBreakpoints : Action Unit := do
  print (Listing.breakpoints (← ask .listBreakpoints))

/-- Lists the global descriptor table. -/
def globalTable : Action Unit := do
  print (Listing.descriptors .globalTable (← ask .globalTable))

/-- Lists the local descriptor table. -/
def localTable : Action Unit := do
  print (Listing.descriptors .localTable (← ask .localTable))

/-! ## Changing -/

/-- Writes bytes to memory. -/
def writeMemory : Action Unit := do
  let address ← nextAddress .data
  let bytes ← parsed (Operand.bytes (← restArguments))
  ask (.writeMemory address bytes)

/-- Sets a breakpoint. -/
def setBreakpoint : Action Unit := do
  let address ← nextAddress .code
  let kind ← optional .normal Operand.breakpointKind
  let ah ← optional 0 Operand.byte
  let al ← optional 0 Operand.byte
  ask (.setBreakpoint ⟨address, kind, ah, al⟩)

/-- Deletes a breakpoint. -/
def deleteBreakpoint : Action Unit := do
  let address ← nextAddress .code
  ask (.deleteBreakpoint address)

/-- Sets a register. -/
def setRegister : Action Unit := do
  let register ← parsed (Operand.register (← nextArgument))
  let value ← parsed (Operand.integer (← nextArgument))
  ask (.setRegister register value)

/-! ## The table -/

/-- All commands, in the order of their registration. -/
def commands : List (Command (Action Unit)) :=
  [⟨["help", "?"], "Show help", help⟩,
   ⟨["clear", "cls"], "Clear the output", clear⟩,
   ⟨["exit", "quit"], "Leave the debugger", leave⟩,
   ⟨["Connect", "!"], "Register for 'breakpoint hit' notifications", connect⟩,
   ⟨["Continue", "g"], "Resume execution", resume⟩,
   ⟨["Break", "b"], "Pause execution", pause⟩,
   ⟨["StepOver", "p"],
    "Steps to the next instruction, running over calls, interrupts, loops and rep", stepOver⟩,
   ⟨["StepIn", "n"], "Steps to the next instruction, including into function calls etc", stepIn⟩,
   ⟨["StepMultiple", "gn"], "<count> - Runs the CPU for the given number of cycles", stepMultiple⟩,
   ⟨["RunToAddress", "ga"], "<address> - Run until the given address is reached", runTo⟩,
   ⟨["GetState", "r"], "Get the current CPU state", state⟩,
   ⟨["Disassemble", "u"],
    "[address] [count] - Disassemble instructions at the given address", disassemble⟩,
   ⟨["GetMemory", "d"],
    "<address> [length] - Gets the contents of memory at the given address", readMemory⟩,
   ⟨["SetMemory", "e"],
    "<address> <byte>... - Changes the contents of memory at the given address", writeMemory⟩,
   ⟨["SearchMemory", "s"],
    "<address> <length|-1> <byte>... - Finds a byte pattern in memory", searchMemory⟩,
   ⟨["ListBreakpoints", "bps", "bl"], "Retrieves the current breakpoint list", listBreakpoints⟩,
   ⟨["SetBreakpoint", "bp"],
    "<address> [type] [ah] [al] - Sets or updates a breakpoint", setBreakpoint⟩,
   ⟨["DelBreakpoint", "bd"],
    "<address> - Removes the breakpoint at the given address", deleteBreakpoint⟩,
   ⟨["SetReg", "reg"],
    "<register> <value> - Updates the contents of a CPU register", setRegister⟩,
   ⟨["Gdt"], "Lists the global descriptor table", globalTable⟩,
   ⟨["Ldt"], "Lists the local descriptor table", localTable⟩]

end Builtin

/-- The command table of the console. -/
def builtinTable : CommandTable (Action Unit) :=
  ⟨Builtin.commands, by decide +kernel⟩

end DebugConsole
