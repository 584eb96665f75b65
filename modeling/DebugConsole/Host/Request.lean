import DebugConsole.Machine.AssemblyLine
import DebugConsole.Machine.Breakpoint
import DebugConsole.Machine.Descriptor
import DebugConsole.Machine.Registers

/-!
# Requests to the debug host

* `Request`: everything that can be asked of the host that runs the debugged machine.
* `Request.Reply`: what each request is answered with when it succeeds.
* `Request.changesMachine`: the requests that do not only look.
-/

namespace DebugConsole

/-- A request to the debug host. -/
inductive Request where
  /-- Subscribes to notifications that the machine stopped. -/
  | connect
  | resume
  | pause
  | stepIn
  | stepMultiple (count : Int32)
  | runTo (address : Address)
  | getState
  | disassemble (address : Address) (count : Int32)
  | readMemory (address : Address) (length : Int32)
  | writeMemory (address : Address) (bytes : List UInt8)
  | searchMemory (start : Address) (length : Int32) (pattern : List UInt8) (advance : Int32)
  | listBreakpoints
  | setBreakpoint (breakpoint : Breakpoint)
  | deleteBreakpoint (address : Address)
  | setRegister (register : Register) (value : Int32)
  | globalTable
  | localTable
  deriving DecidableEq, Repr

namespace Request

/-- What a request is answered with. -/
@[reducible] def Reply : Request → Type
  | .pause | .stepIn | .stepMultiple _ | .getState => Registers
  | .disassemble _ _ => List AssemblyLine
  | .readMemory _ _ => List UInt8
  | .searchMemory _ _ _ _ => List Address
  | .listBreakpoints => List Breakpoint
  | .globalTable | .localTable => List Descriptor
  | .connect | .resume | .runTo _ | .writeMemory _ _ | .setBreakpoint _ | .deleteBreakpoint _
  | .setRegister _ _ => Unit

/-- The name of the host's method that answers a request. -/
def method : Request → String
  | .connect => "Connect"
  | .resume => "Continue"
  | .pause => "Break"
  | .stepIn => "StepIn"
  | .stepMultiple _ => "StepMultiple"
  | .runTo _ => "RunToAddress"
  | .getState => "GetState"
  | .disassemble _ _ => "Disassemble"
  | .readMemory _ _ => "GetMemory"
  | .writeMemory _ _ => "SetMemory"
  | .searchMemory _ _ _ _ => "SearchMemory"
  | .listBreakpoints => "ListBreakpoints"
  | .setBreakpoint _ => "SetBreakpoint"
  | .deleteBreakpoint _ => "DelBreakpoint"
  | .setRegister _ _ => "SetReg"
  | .globalTable => "GetGdt"
  | .localTable => "GetLdt"

/-- Whether a request may change the machine or its connection. -/
def changesMachine : Request → Bool
  | .getState | .disassemble _ _ | .readMemory _ _ | .searchMemory _ _ _ _ | .listBreakpoints
  | .globalTable | .localTable => false
  | _ => true

/-- The bytes of a request in brackets, two digits each. -/
private def bracketed (bytes : List UInt8) : String :=
  "[" ++ ", ".intercalate (bytes.map fun b => Text.hex 2 b.toNat) ++ "]"

/-- The arguments of a request as a trace shows them. -/
def argumentTexts : Request → List String
  | .stepMultiple count => [toString count.toInt]
  | .runTo a | .deleteBreakpoint a => [a.text]
  | .disassemble a count => [a.text, toString count.toInt]
  | .readMemory a length => [a.text, toString length.toInt]
  | .writeMemory a bytes => [a.text, bracketed bytes]
  | .searchMemory a length pattern advance =>
    [a.text, toString length.toInt, bracketed pattern, toString advance.toInt]
  | .setBreakpoint b => [b.address.text, b.kind.name, Text.hex 2 b.ah.toNat, Text.hex 2 b.al.toNat]
  | .setRegister r value => [r.name, toString value.toInt]
  | _ => []

/-- A request as a trace shows it: the method, and its arguments if there are any. -/
def text (r : Request) : String :=
  match r.argumentTexts with
  | [] => r.method
  | arguments => r.method ++ "(" ++ ", ".intercalate arguments ++ ")"

end Request

end DebugConsole
