import DebugConsole.Host.Dialogue

/-!
# A scripted host

A debug host held in memory. It answers from what it was given: memory, registers and tables never
change, breakpoints do, and methods can be told to fail.

* `ScriptedHost.answer`: the host as a `Host`.
-/

namespace DebugConsole

/-- Bytes that a scripted host holds at one address. -/
structure MemoryBlock where
  address : Address
  bytes : List UInt8
  /-- Whether a longer request gets these bytes only, instead of zeros behind them. -/
  exact : Bool
  deriving DecidableEq, Repr

/-- What a scripted host answers from. -/
structure ScriptedHost where
  registers : Registers := {}
  memory : List MemoryBlock := []
  assembly : List AssemblyLine := []
  globalTable : List DescriptorRecord := []
  localTable : List DescriptorRecord := []
  found : List Address := []
  breakpoints : List Breakpoint := []
  /-- The text each failing method fails with; the method `*` stands for all others. -/
  failures : List (String × String) := []

namespace ScriptedHost

/-- The greatest number of bytes that can be read at once. -/
def memoryLimit : Nat := 4096

/-- The text that a method fails with, if it fails. -/
def failure? (h : ScriptedHost) (method : String) : Option HostFailure :=
  ((h.failures.lookup method).or (h.failures.lookup "*")).map HostFailure.mk

/-- The first `length` bytes at an address, with zeros behind them unless the block is exact. -/
def read (h : ScriptedHost) (a : Address) (length : Nat) : List UInt8 :=
  let block := (h.memory.find? (·.address = a)).getD ⟨a, [], false⟩
  let bytes := block.bytes.take length
  if block.exact then bytes else bytes ++ List.replicate (length - bytes.length) 0

/-- The breakpoints with one more; it replaces the first one at its address. -/
def insertBreakpoint (b : Breakpoint) : List Breakpoint → List Breakpoint
  | [] => [b]
  | c :: rest => if c.address = b.address then b :: rest else c :: insertBreakpoint b rest

/-- The answer to a request of a method that does not fail. -/
def perform (h : ScriptedHost) : (r : Request) → Except HostFailure r.Reply × ScriptedHost
  | .pause | .stepIn | .stepMultiple _ | .getState => (.ok h.registers, h)
  | .disassemble _ count => (.ok (h.assembly.take count.toInt.toNat), h)
  | .readMemory a length =>
    if 0 ≤ length.toInt ∧ length.toInt ≤ memoryLimit then (.ok (h.read a length.toInt.toNat), h)
    else (.error ⟨"length out of range"⟩, h)
  | .searchMemory _ _ _ _ => (.ok h.found, h)
  | .listBreakpoints => (.ok h.breakpoints, h)
  | .setBreakpoint b => (.ok (), { h with breakpoints := insertBreakpoint b h.breakpoints })
  | .deleteBreakpoint a =>
    (.ok (), { h with breakpoints := h.breakpoints.filter (·.address ≠ a) })
  | .globalTable => (.ok (h.globalTable.map Descriptor.ofRecord), h)
  | .localTable => (.ok (h.localTable.map Descriptor.ofRecord), h)
  | .connect | .resume | .runTo _ | .writeMemory _ _ | .setRegister _ _ => (.ok (), h)

/-- A scripted host answers a request. -/
def answer : Host ScriptedHost := fun r h =>
  match h.failure? r.method with
  | some failure => (.error failure, h)
  | none => h.perform r

end ScriptedHost

end DebugConsole
