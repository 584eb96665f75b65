import DebugConsole.Proofs.Bus.Simulation
import DebugConsole.Proofs.Wire.Signatures

/-!
# What a call asks for

The call that carries a request can be understood from its member, its signature and its body alone
(`request_understood`): the body holds the arguments of the request and nothing else, so no other
request is sent in the same way.

- **Operations** (`Request.ofMessage?`): what the debug host is asked for by a method name with some
  values behind it.
- **Calls**: the body is read by its signature, whatever the shapes of the sender are.
-/

namespace DebugConsole

open Wire

variable {σ : Type}

namespace Request

/-- The address that two numbers on the wire stand for; both are meant without sign. -/
def addressOf (segment : Int16) (offset : Int32) : Address :=
  ⟨segment.toUInt16, offset.toUInt32⟩

/-- The request that a method name and the values behind it stand for. -/
def ofMessage? (member : String) : (s : Shape) × s.Value → Option Request
  | ⟨.unit, _⟩ =>
    match member with
    | "Connect" => some .connect
    | "Continue" => some .resume
    | "Break" => some .pause
    | "StepIn" => some .stepIn
    | "GetState" => some .getState
    | "ListBreakpoints" => some .listBreakpoints
    | "GetGdt" => some .globalTable
    | "GetLdt" => some .localTable
    | _ => none
  | ⟨.int32, count⟩ => if member = "StepMultiple" then some (.stepMultiple count) else none
  | ⟨.struct (.both .int16 .int32), (segment, offset)⟩ =>
    match member with
    | "RunToAddress" => some (.runTo (addressOf segment offset))
    | "DelBreakpoint" => some (.deleteBreakpoint (addressOf segment offset))
    | _ => none
  | ⟨.both (.struct (.both .int16 .int32)) .int32, ((segment, offset), number)⟩ =>
    match member with
    | "Disassemble" => some (.disassemble (addressOf segment offset) number)
    | "GetMemory" => some (.readMemory (addressOf segment offset) number)
    | _ => none
  | ⟨.both (.struct (.both .int16 .int32)) (.array .byte), ((segment, offset), bytes)⟩ =>
    if member = "SetMemory" then some (.writeMemory (addressOf segment offset) bytes) else none
  | ⟨.both (.struct (.both .int16 .int32)) (.both .int32 (.both (.array .byte) .int32)),
      ((segment, offset), length, pattern, advance)⟩ =>
    if member = "SearchMemory" then
      some (.searchMemory (addressOf segment offset) length pattern advance)
    else none
  | ⟨.struct (.both (.struct (.both .int16 .int32)) (.both .byte (.both .byte .byte))),
      ((segment, offset), kind, ah, al)⟩ =>
    if member = "SetBreakpoint" then
      some (.setBreakpoint ⟨addressOf segment offset, .ofTag kind, ah, al⟩)
    else none
  | ⟨.both .byte .int32, (tag, value)⟩ =>
    if member = "SetReg" then (Register.ofTag? tag).map fun r => .setRegister r value else none
  | _ => none

theorem ofMessage?_arguments (r : Request) :
    ofMessage? r.method ⟨r.shape, r.arguments⟩ = some r := by
  cases r with
  | setBreakpoint b =>
    show some (Request.setBreakpoint ⟨b.address, .ofTag b.kind.tag, b.ah, b.al⟩) = _
    rw [BreakpointKind.ofTag_tag]
  | setRegister register value =>
    show (Register.ofTag? register.tag).map _ = _
    rw [Register.ofTag?_tag]
    rfl
  | _ => rfl

theorem shape_canonical (r : Request) : r.shape.Canonical := by
  cases r <;> simp [shape, Marshal.shape, Shape.Canonical, Shape.types]

theorem shape_solidArrays (r : Request) : r.shape.SolidArrays := by
  cases r <;> simp [shape, Marshal.shape, Shape.SolidArrays, Shape.Solid]

/-- Requests carry no texts. -/
theorem arguments_nulFree (r : Request) : r.shape.NulFree r.arguments := by
  cases r <;> simp [shape, arguments, Marshal.shape, Marshal.toValue, Shape.NulFree]

end Request

/-! ## Calls -/

namespace MethodCall

/-- A body is read as the arguments of its request, with nothing left over. -/
theorem unmarshal?_ofRequest {service : String} {r : Request}
    (h : (ofRequest service r).body.length ≤ maxMessage) :
    unmarshal? (ofRequest service r).signature (ofRequest service r).body =
      some ⟨r.shape, r.arguments⟩ :=
  unmarshal?_write r.shape_canonical r.shape_solidArrays r.arguments_nulFree (lt_of_le_maxMessage h)

/-- The request that a call asks for, by its member, its signature and its body. -/
def asked? (member signature : String) (body : List UInt8) : Option Request :=
  (unmarshal? signature body).bind (Request.ofMessage? member)

theorem asked?_ofRequest {service : String} {r : Request}
    (h : (ofRequest service r).body.length ≤ maxMessage) :
    let call := ofRequest service r
    asked? call.member call.signature call.body = some r := by
  intro call
  rw [asked?, unmarshal?_ofRequest h]
  exact r.ofMessage?_arguments

end MethodCall

/-- A request over the bus makes one call, to the object and the interface of the debug host. By the
signature of the call, its body holds the arguments in their order and nothing else, as the method
is understood; so no other request makes a call with this member, signature and body. -/
theorem Bus.request_understood (service : String) (transport : Transport σ) (x : σ) (r : Request)
    (h : (MethodCall.ofRequest service r).body.length ≤ maxMessage) :
    ∃ call : MethodCall,
      (∀ calls, Bus.host service transport.recorded r (x, calls) =
        (r.replyOf (transport call x).1, (transport call x).2, calls ++ [call])) ∧
      call.destination = service ∧ call.path = "/debugger" ∧
      call.interface = "com.dosbox.Debugger" ∧ call.member = r.method ∧
      unmarshal? call.signature call.body = some ⟨r.shape, r.arguments⟩ ∧
      Request.ofMessage? call.member ⟨r.shape, r.arguments⟩ = some r ∧
      ∀ service' r', let call' := MethodCall.ofRequest service' r'
        call'.body.length ≤ maxMessage → call'.member = call.member →
          call'.signature = call.signature → call'.body = call.body → r' = r := by
  refine ⟨.ofRequest service r, fun _ => rfl, rfl, rfl, rfl, rfl, MethodCall.unmarshal?_ofRequest h,
    r.ofMessage?_arguments, fun service' r' => ?_⟩
  intro call' h' hmember hsignature hbody
  have hr' : MethodCall.asked? call'.member call'.signature call'.body = some r' :=
    MethodCall.asked?_ofRequest h'
  rw [hmember, hsignature, hbody, MethodCall.asked?_ofRequest h] at hr'
  exact (Option.some.inj hr').symm

/-- A search from the top of the address space on: both parts of the address travel as negative
numbers, and there is padding behind the three bytes of the pattern. -/
theorem Bus.request_understood_search :
    let r : Request := .searchMemory ⟨0xF000, 0xFFFFFFF0⟩ (-1) [0xCD, 0x21, 0x90] 2
    (MethodCall.ofRequest "com.dosbox" r).body.length ≤ maxMessage ∧
    ∃ call : MethodCall, call.member = "SearchMemory" ∧ unmarshal? call.signature call.body =
      some ⟨.both (.struct (.both .int16 .int32)) (.both .int32 (.both (.array .byte) .int32)),
        ((-0x1000, -0x10), -1, [0xCD, 0x21, 0x90], 2)⟩ := by
  intro r
  have hlength : (MethodCall.ofRequest "com.dosbox" r).body.length ≤ maxMessage := by decide
  obtain ⟨call, -, -, -, -, hmember, hbody, -⟩ :=
    Bus.request_understood "com.dosbox" (fun _ x => (.returned [], x)) () r hlength
  exact ⟨hlength, call, hmember, hbody⟩

end DebugConsole
