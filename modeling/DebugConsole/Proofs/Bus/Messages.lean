import DebugConsole.Bus
import DebugConsole.Proofs.Wire.RoundTrip

/-!
# Messages, there and back

- **Calls** (`MethodCall.request?_ofRequest`): the call that carries a request carries that request.
- **Answers** (`Bus.replyOf_replyFor`): the console is told the answer that was sent, and a
  failure with the name of the bus error in front (`Bus.named`).
- **Signals** (`Signal.stopped?_ofStopped`): a stop notification carries its snapshot.

Messages have a greatest length (`Wire.maxMessage`), far below what a length on the wire can count.
-/

namespace DebugConsole

open Wire Reader

/-- The greatest length of a message. -/
def Wire.maxMessage : Nat := 2 ^ 27

theorem Wire.lt_of_le_maxMessage {n : Nat} (h : n ≤ maxMessage) : n < 2 ^ 32 :=
  Nat.lt_of_le_of_lt h (by decide)

/-! ## Calls -/

namespace Request

theorem readsBack_int32 (n : Int32) : ReadsBack (Shape.read .int32) (Shape.write .int32 n) n :=
  Shape.readsBack (s := .int32) trivial trivial

theorem readsBack_bytes (bytes : List UInt8) :
    ReadsBack (Marshal.readList UInt8) (Shape.write (.array .byte) bytes) bytes :=
  Marshal.readsBack_list fun b _ => carried_byte b

/-- The method that a request names reads the request from its arguments. -/
theorem readsBack_arguments (r : Request) :
    ∃ reader, reader? r.method = some reader ∧ ReadsBack reader (r.shape.write r.arguments) r := by
  cases r with
  | connect | resume | pause | stepIn | getState | listBreakpoints | globalTable | localTable =>
    exact ⟨_, rfl, fun offset _ => .pure _ offset⟩
  | stepMultiple count => exact ⟨_, rfl, (readsBack_int32 count).map _⟩
  | runTo a => exact ⟨_, rfl, (carried_address a).readsBack.map _⟩
  | disassemble a count =>
    exact ⟨_, rfl, (carried_address a).readsBack.both ((readsBack_int32 count).map _)⟩
  | readMemory a length =>
    exact ⟨_, rfl, (carried_address a).readsBack.both ((readsBack_int32 length).map _)⟩
  | writeMemory a bytes =>
    exact ⟨_, rfl, (carried_address a).readsBack.both ((readsBack_bytes bytes).map _)⟩
  | searchMemory a length pattern advance =>
    exact ⟨_, rfl, (carried_address a).readsBack.both ((readsBack_int32 length).both
      ((readsBack_bytes pattern).both ((readsBack_int32 advance).map _)))⟩
  | setBreakpoint b => exact ⟨_, rfl, (carried_breakpoint b).readsBack.map _⟩
  | deleteBreakpoint a => exact ⟨_, rfl, (carried_address a).readsBack.map _⟩
  | setRegister r value =>
    exact ⟨_, rfl, (carried_register r).readsBack.both ((readsBack_int32 value).map _)⟩

end Request

/-- The call that carries a request carries that request. -/
theorem MethodCall.request?_ofRequest (service : String) (r : Request)
    (h : (ofRequest service r).body.length < 2 ^ 32) :
    (ofRequest service r).request? = some r := by
  obtain ⟨reader, hreader, hreads⟩ := r.readsBack_arguments
  have hrun : reader.run (r.shape.write r.arguments 0) = .ok r := (hreads 0 h).run_eq
  unfold request?
  simp [ofRequest, hreader, hrun, Except.toOption]

/-! ## Answers -/

namespace Request

/-- No text of the answer contains a zero character. -/
def NulFree : (r : Request) → r.Reply → Prop
  | .disassemble _ _, items => ∀ a ∈ items, '\x00' ∉ a.text.toList
  | .connect, _ | .resume, _ | .pause, _ | .stepIn, _ | .stepMultiple _, _ | .runTo _, _
  | .getState, _ | .readMemory _ _, _ | .writeMemory _ _, _ | .searchMemory _ _ _ _, _
  | .listBreakpoints, _ | .setBreakpoint _, _ | .deleteBreakpoint _, _ | .setRegister _ _, _
  | .globalTable, _ | .localTable, _ => True

instance : (r : Request) → (reply : r.Reply) → Decidable (r.NulFree reply)
  | .disassemble _ _, items => inferInstanceAs (Decidable (∀ a ∈ items, '\x00' ∉ a.text.toList))
  | .connect, _ | .resume, _ | .pause, _ | .stepIn, _ | .stepMultiple _, _ | .runTo _, _
  | .getState, _ | .readMemory _ _, _ | .writeMemory _ _, _ | .searchMemory _ _ _ _, _
  | .listBreakpoints, _ | .setBreakpoint _, _ | .deleteBreakpoint _, _ | .setRegister _ _, _
  | .globalTable, _ | .localTable, _ => inferInstanceAs (Decidable True)

/-- The descriptors of the answer come from records. -/
def FromRecords : (r : Request) → r.Reply → Prop
  | .globalTable, slots | .localTable, slots => ∀ d ∈ slots, ∃ record, d = .ofRecord record
  | .connect, _ | .resume, _ | .pause, _ | .stepIn, _ | .stepMultiple _, _ | .runTo _, _
  | .getState, _ | .disassemble _ _, _ | .readMemory _ _, _ | .writeMemory _ _, _
  | .searchMemory _ _ _ _, _ | .listBreakpoints, _ | .setBreakpoint _, _ | .deleteBreakpoint _, _
  | .setRegister _ _, _ => True

theorem readsBack_descriptors {slots : List Descriptor}
    (h : ∀ d ∈ slots, ∃ record, d = .ofRecord record) :
    ReadsBack (Marshal.readList Descriptor) (Marshal.writeList slots) slots := by
  refine Marshal.readsBack_list fun d hd => ?_
  obtain ⟨record, rfl⟩ := h d hd
  exact carried_descriptor record

/-- A written answer is read back. -/
theorem reads_reply {r : Request} {reply : r.Reply} (htext : r.NulFree reply)
    (hrecords : r.FromRecords reply) (hlength : (r.writeReply reply).length < 2 ^ 32) :
    r.readReply.Reads 0 (r.writeReply reply) reply := by
  cases r with
  | pause | stepIn | stepMultiple | getState => exact (carried_registers reply).readsBack 0 hlength
  | disassemble =>
    exact Marshal.readsBack_list (fun a ha => carried_assemblyLine (htext a ha)) 0 hlength
  | readMemory => exact Marshal.readsBack_list (fun b _ => carried_byte b) 0 hlength
  | searchMemory => exact Marshal.readsBack_list (fun a _ => carried_address a) 0 hlength
  | listBreakpoints => exact Marshal.readsBack_list (fun b _ => carried_breakpoint b) 0 hlength
  | globalTable | localTable => exact readsBack_descriptors hrecords 0 hlength
  | connect | resume | runTo | writeMemory | setBreakpoint | deleteBreakpoint | setRegister =>
    exact .pure () 0

end Request

/-- A failure as the console is told of it over the bus. -/
def Bus.named (e : HostFailure) : HostFailure :=
  ⟨Bus.failureName ++ ": " ++ e.message⟩

/-- A request and its answer fit into messages, and the texts of the answer can be sent. -/
def Exchange.Fits : Exchange → Prop
  | ⟨r, .ok reply⟩ => (r.shape.write r.arguments 0).length ≤ maxMessage ∧
    r.NulFree reply ∧ (r.writeReply reply).length ≤ maxMessage
  | ⟨r, .error _⟩ => (r.shape.write r.arguments 0).length ≤ maxMessage

instance (x : Exchange) : Decidable x.Fits :=
  match x with
  | ⟨_, .ok _⟩ => inferInstanceAs (Decidable (_ ∧ _ ∧ _))
  | ⟨_, .error _⟩ => inferInstanceAs (Decidable (_ ≤ _))

theorem Exchange.Fits.request {x : Exchange} (h : x.Fits) :
    (x.request.shape.write x.request.arguments 0).length ≤ maxMessage := by
  obtain ⟨r, e | reply⟩ := x
  · exact h
  · exact h.1

/-- The descriptors of an answer come from records, if it is a table. -/
def Exchange.FromRecords (x : Exchange) : Prop :=
  ∀ reply, x.reply = .ok reply → x.request.FromRecords reply

/-- A request and an answer that the bus carries as they are. -/
structure Exchange.Carried (x : Exchange) : Prop where
  fits : x.Fits
  fromRecords : x.FromRecords

namespace Bus

variable {σ : Type}

theorem replyOf_replyFor {r : Request} {reply : Except HostFailure r.Reply}
    (h : Exchange.Carried ⟨r, reply⟩) :
    r.replyOf (r.replyFor reply) = reply.mapError named := by
  cases reply with
  | error e => rfl
  | ok reply =>
    obtain ⟨-, htext, hlength⟩ := h.fits
    have hrun : r.readReply.run (r.writeReply reply) = .ok reply :=
      (Request.reads_reply htext (h.fromRecords reply rfl) (lt_of_le_maxMessage hlength)).run_eq
    simp only [Request.replyFor, Request.replyOf, hrun]
    rfl

/-- A host at the far end of the bus answers like the host itself, apart from the names of its
failures. -/
theorem host_serve (service : String) (host : Host σ) {r : Request} {x : σ}
    (h : Exchange.Carried ⟨r, (host r x).1⟩) :
    Bus.host service (serve host) r x = ((host r x).1.mapError named, (host r x).2) := by
  have hrequest : (MethodCall.ofRequest service r).request? = some r :=
    MethodCall.request?_ofRequest service r (lt_of_le_maxMessage h.fits.request)
  simp only [Bus.host, serve, hrequest, replyOf_replyFor h]

end Bus

/-! ## Signals -/

/-- A stop notification carries its snapshot. -/
theorem Signal.stopped?_ofStopped (r : Registers) : (ofStopped r).stopped? = some r := by
  have hlength : (Marshal.write r 0).length < 2 ^ 32 := by
    -- All fields have a fixed width.
    simp [Marshal.write, Marshal.shape, Marshal.toValue, Shape.write, Shape.writeNumber, paddingLength]
  have hrun : (Marshal.read Registers).run (Marshal.write r 0) = .ok r :=
    ((carried_registers r).readsBack 0 hlength).run_eq
  simp [stopped?, ofStopped, hrun, Except.toOption]

end DebugConsole
