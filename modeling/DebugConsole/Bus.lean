import DebugConsole.Host.Dialogue
import DebugConsole.Wire.BusName
import DebugConsole.Wire.Marshal

/-!
# A host on the message bus

* `MethodCall.ofRequest`: the call that carries a request.
* `Bus.host`: a host that sends each request over a transport and reads the answer.
* `Bus.serve`: the other end, a transport that puts calls to a host.
* `Signal.stopped?`: the snapshot that a stop notification carries.
-/

namespace DebugConsole

open Wire

/-- The object on the bus that the debug host is. -/
def Bus.path : String := "/debugger"

/-- The interface of the debug host. -/
def Bus.interface : String := "com.dosbox.Debugger"

/-- The name of the errors that a failing method answers with. -/
def Bus.failureName : String := "com.dosbox.Error.Failed"

/-- A method call on the bus. -/
structure MethodCall where
  destination : String
  path : String
  interface : String
  member : String
  signature : String
  body : List UInt8
  deriving DecidableEq, Repr

/-- The answer to a method call. -/
inductive MethodReply where
  | returned (body : List UInt8)
  | failed (name text : String)
  deriving DecidableEq, Repr

/-- A signal on the bus. -/
structure Signal where
  signature : String
  body : List UInt8
  deriving DecidableEq, Repr

/-! ## Arguments -/

namespace Request

/-- The shape of a method's arguments. -/
def shape : Request → Shape
  | .stepMultiple _ => .int32
  | .runTo _ | .deleteBreakpoint _ => Marshal.shape Address
  | .disassemble _ _ | .readMemory _ _ => .both (Marshal.shape Address) .int32
  | .writeMemory _ _ => .both (Marshal.shape Address) (.array .byte)
  | .searchMemory _ _ _ _ =>
    .both (Marshal.shape Address) (.both .int32 (.both (.array .byte) .int32))
  | .setBreakpoint _ => Marshal.shape Breakpoint
  | .setRegister _ _ => .both (Marshal.shape Register) .int32
  | .connect | .resume | .pause | .stepIn | .getState | .listBreakpoints | .globalTable
  | .localTable => .unit

/-- A method's arguments as a value of their shape. -/
def arguments : (r : Request) → r.shape.Value
  | .stepMultiple count => count
  | .runTo a | .deleteBreakpoint a => Marshal.toValue a
  | .disassemble a count => (Marshal.toValue a, count)
  | .readMemory a length => (Marshal.toValue a, length)
  | .writeMemory a bytes => (Marshal.toValue a, bytes)
  | .searchMemory a length pattern advance => (Marshal.toValue a, length, pattern, advance)
  | .setBreakpoint b => Marshal.toValue b
  | .setRegister r value => (Marshal.toValue r, value)
  | .connect | .resume | .pause | .stepIn | .getState | .listBreakpoints | .globalTable
  | .localTable => ()

/-- Reads a number. -/
private def readInt32 : Reader Int32 := Shape.read .int32

/-- Reads bytes. -/
private def readBytes : Reader (List UInt8) := Marshal.readList UInt8

/-- Reads the arguments of a method, if there is one of the name. -/
def reader? : String → Option (Reader Request)
  | "Connect" => some (return .connect)
  | "Continue" => some (return .resume)
  | "Break" => some (return .pause)
  | "StepIn" => some (return .stepIn)
  | "StepMultiple" => some (return .stepMultiple (← readInt32))
  | "RunToAddress" => some (return .runTo (← Marshal.read Address))
  | "GetState" => some (return .getState)
  | "Disassemble" => some (return .disassemble (← Marshal.read Address) (← readInt32))
  | "GetMemory" => some (return .readMemory (← Marshal.read Address) (← readInt32))
  | "SetMemory" => some (return .writeMemory (← Marshal.read Address) (← readBytes))
  | "SearchMemory" =>
    some (return .searchMemory (← Marshal.read Address) (← readInt32) (← readBytes) (← readInt32))
  | "ListBreakpoints" => some (return .listBreakpoints)
  | "SetBreakpoint" => some (return .setBreakpoint (← Marshal.read Breakpoint))
  | "DelBreakpoint" => some (return .deleteBreakpoint (← Marshal.read Address))
  | "SetReg" => some (return .setRegister (← Marshal.read Register) (← readInt32))
  | "GetGdt" => some (return .globalTable)
  | "GetLdt" => some (return .localTable)
  | _ => none

end Request

/-- The call that carries a request to a service. -/
def MethodCall.ofRequest (service : String) (r : Request) : MethodCall where
  destination := service
  path := Bus.path
  interface := Bus.interface
  member := r.method
  signature := r.shape.signature
  body := r.shape.write r.arguments 0

/-- The request that a call carries, if it is one of the debug host's. -/
def MethodCall.request? (call : MethodCall) : Option Request :=
  if call.path = Bus.path && call.interface = Bus.interface then do
    let reader ← Request.reader? call.member
    let request ← (reader.run call.body).toOption
    if request.shape.signature = call.signature then some request else none
  else none

/-! ## Answers -/

namespace Request

/-- Reads the answer to a request. -/
def readReply : (r : Request) → Reader r.Reply
  | .pause | .stepIn | .stepMultiple _ | .getState => Marshal.read Registers
  | .disassemble _ _ => Marshal.readList AssemblyLine
  | .readMemory _ _ => Marshal.readList UInt8
  | .searchMemory _ _ _ _ => Marshal.readList Address
  | .listBreakpoints => Marshal.readList Breakpoint
  | .globalTable | .localTable => Marshal.readList Descriptor
  | .connect | .resume | .runTo _ | .writeMemory _ _ | .setBreakpoint _ | .deleteBreakpoint _
  | .setRegister _ _ => return ()

/-- The wire form of the answer to a request. -/
def writeReply : (r : Request) → r.Reply → List UInt8
  | .pause, registers | .stepIn, registers | .stepMultiple _, registers | .getState, registers =>
    @Marshal.write Registers _ registers 0
  | .disassemble _ _, items => @Marshal.writeList AssemblyLine _ items 0
  | .readMemory _ _, bytes => @Marshal.writeList UInt8 _ bytes 0
  | .searchMemory _ _ _ _, found => @Marshal.writeList Address _ found 0
  | .listBreakpoints, items => @Marshal.writeList Breakpoint _ items 0
  | .globalTable, slots | .localTable, slots => @Marshal.writeList Descriptor _ slots 0
  | .connect, _ | .resume, _ | .runTo _, _ | .writeMemory _ _, _ | .setBreakpoint _, _
  | .deleteBreakpoint _, _ | .setRegister _ _, _ => []

/-- What the console is told of the answer to a request. -/
def replyOf (r : Request) : MethodReply → Except HostFailure r.Reply
  | .returned body => (r.readReply.run body).mapError fun e => ⟨e.message⟩
  | .failed name text => .error ⟨name ++ ": " ++ text⟩

/-- The answer to a call, made of the answer to the request it carries. -/
def replyFor (r : Request) : Except HostFailure r.Reply → MethodReply
  | .ok reply => .returned (r.writeReply reply)
  | .error failure => .failed Bus.failureName failure.message

end Request

/-- The two ends of a connection seen from the caller: a call is answered, and the far end may
change. -/
abbrev Transport (σ : Type) := MethodCall → σ → MethodReply × σ

namespace Bus

variable {σ : Type}

/-- A host that is reached over a transport. -/
def host (service : String) (transport : Transport σ) : Host σ := fun r s =>
  let (reply, s) := transport (.ofRequest service r) s
  (r.replyOf reply, s)

/-- The far end of a transport that puts calls to a host. -/
def serve (host : Host σ) : Transport σ := fun call s =>
  match call.request? with
  | some r =>
    let (reply, s) := host r s
    (r.replyFor reply, s)
  | none => (.failed "org.freedesktop.DBus.Error.UnknownMethod" call.member, s)

end Bus

namespace Signal

/-- The signal that the machine stopped. -/
def ofStopped (r : Registers) : Signal :=
  ⟨(Marshal.shape Registers).signature, Marshal.write r 0⟩

/-- The snapshot that a stop notification carries; a malformed one carries none. -/
def stopped? (s : Signal) : Option Registers :=
  if s.signature = (Marshal.shape Registers).signature then
    ((Marshal.read Registers).run s.body).toOption
  else none

end Signal

end DebugConsole
