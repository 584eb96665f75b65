import DebugConsole.Machine.Breakpoint
import DebugConsole.Session
import DebugConsole.Text.Case

/-!
# Operands

The words behind a command name: numbers, addresses, registers and breakpoint kinds.

* `Operand.integer`: `0x1F` and `01F` are hexadecimal, a lone `0` is zero, all else is decimal.
* `Operand.address`: `segment:offset`, or an offset alone. An offset is hexadecimal digits, else a
  register, else a symbol; one without a segment is paired with that of its register, or else with
  CS or DS by context.
* `OperandError.message`: the wording of each fault.
-/

namespace DebugConsole

/-- Why an operand is refused. -/
inductive OperandError where
  | badNumber (token : String)
  | negative (token : String)
  | notByte (token : String)
  | missingAddress
  | unknownSymbol (token : String)
  | unknownSegment (token : String)
  | unknownRegister (token : String)
  | unknownBreakpointKind (token : String)
  | badLength (token : String)
  | missingByte
  deriving DecidableEq, Repr

/-- The wording of a refused operand. -/
def OperandError.message : OperandError → String
  | .badNumber token => "Invalid number \"" ++ token ++ "\""
  | .negative token => "Expected a non-negative number, got \"" ++ token ++ "\""
  | .notByte token => "Value \"" ++ token ++ "\" does not fit in a byte"
  | .missingAddress => "Expected an address"
  | .unknownSymbol token => "Unresolved symbol \"" ++ token ++ "\""
  | .unknownSegment token => "Unexpected segment \"" ++ token ++ "\""
  | .unknownRegister token => "Unexpected register \"" ++ token ++ "\""
  | .unknownBreakpointKind token => "Unexpected breakpoint type \"" ++ token ++ "\""
  | .badLength token => "Invalid length \"" ++ token ++ "\""
  | .missingByte => "Expected at least one byte"

namespace Operand

/-! ## Numbers -/

/-- The value of a number's characters. Hexadecimal digits give the 32 bits of the value. -/
def integer? : List Char → Option Int32
  | '0' :: 'x' :: digits => (Text.readHex32 digits).map UInt32.toInt32
  | ['0'] => some 0
  | '0' :: digits => (Text.readHex32 digits).map UInt32.toInt32
  | token => (Text.readSigned 0x80000000 (.ofList token)).toOption.map Int32.ofInt

/-- A number. -/
def integer (token : String) : Except OperandError Int32 :=
  match integer? token.toList with
  | some n => .ok n
  | none => .error (.badNumber token)

/-- A number that is not negative. -/
def count (token : String) : Except OperandError Int32 := do
  let n ← integer token
  if n < 0 then throw (.negative token)
  return n

/-- A number from 0 to 255. -/
def byte (token : String) : Except OperandError UInt8 := do
  let n ← integer token
  if n < 0 || 255 < n then throw (.notByte token)
  return UInt8.ofNat n.toInt.toNat

/-- Bytes, at least one. -/
def bytes (tokens : List String) : Except OperandError (List UInt8) := do
  let values ← tokens.mapM byte
  if values.isEmpty then throw .missingByte
  return values

/-- A number of bytes to search, or -1 for no limit. -/
def searchLength (token : String) : Except OperandError Int32 := do
  let n ← integer token
  if n < -1 then throw (.badLength token)
  return n

/-! ## Addresses -/

/-- The registers that can stand for an offset, each with the segment it is paired with. -/
def offsetRegisters : List (Register × Register) :=
  [(.eax, .ds), (.ebx, .ds), (.ecx, .ds), (.edx, .ds), (.esi, .ds), (.edi, .ds),
   (.ebp, .ss), (.esp, .ss), (.eip, .cs)]

/-- The registers that can stand for a segment. -/
def segmentRegisters : List Register :=
  [.cs, .ds, .es, .fs, .gs, .ss]

/-- The selector in a segment register. -/
def selector (r : Registers) (segment : Register) : UInt16 :=
  (r.get segment).toUInt16

/-- An offset, and the segment it is paired with if it is that of a register. -/
def offset (s : Session) (token : String) : Except OperandError (UInt32 × Option UInt16) :=
  match Text.readHex32 token.toList with
  | some value => .ok (value, none)
  | none =>
    match offsetRegisters.find? (fun pair => Text.upper token == pair.1.name) with
    | some (register, segment) =>
      .ok (s.current.get register, some (selector s.current segment))
    | none =>
      if token.isEmpty then .error .missingAddress
      else
        match s.resolve token with
        | some value => .ok (value, none)
        | none => .error (.unknownSymbol token)

/-- A segment: hexadecimal digits that fit sixteen bits, or a segment register. -/
def segment (s : Session) (token : String) : Except OperandError UInt16 :=
  match (Text.readHex32 token.toList).filter (·.toNat < UInt16.size) with
  | some value => .ok value.toUInt16
  | none =>
    match segmentRegisters.find? (fun register => Text.upper token == register.name) with
    | some register => .ok (selector s.current register)
    | none => .error (.unknownSegment token)

/-- What an address without a segment belongs to. -/
inductive Context where
  | code | data
  deriving DecidableEq, Repr

/-- The segment of an address that neither gives nor implies one. -/
def Context.segment (r : Registers) : Context → UInt16
  | .code => r.cs
  | .data => r.ds

/-- The parts of a token before and after its first colon, if it has one. -/
def splitColon? (token : String) : Option (String × String) :=
  match token.toList.span (· != ':') with
  | (before, _ :: after) => some (.ofList before, .ofList after)
  | (_, []) => none

/-- An address. -/
def address (s : Session) (context : Context) (token : String) : Except OperandError Address :=
  match splitColon? token with
  | some (before, after) => do
    let segment ← segment s before
    let (offset, _) ← offset s after
    return ⟨segment, offset⟩
  | none => do
    let (offset, paired) ← offset s token
    return ⟨paired.getD (context.segment s.current), offset⟩

/-! ## Names -/

/-- A register, whatever its letter case; the flags have two names. -/
def register (token : String) : Except OperandError Register :=
  let name := Text.upper token
  if name = "EFLAGS" then .ok .flags
  else
    match Register.all.find? (·.name == name) with
    | some r => .ok r
    | none => .error (.unknownRegister token)

/-- The names of the breakpoint kinds that can be set. -/
def breakpointNames : List (String × BreakpointKind) :=
  [("NORMAL", .normal), ("N", .normal), ("X", .normal),
   ("READ", .read), ("R", .read),
   ("WRITE", .write), ("W", .write),
   ("INTERRUPT", .interrupt), ("INT", .interrupt),
   ("INTERRUPTWITHAH", .interruptWithAH), ("INTAH", .interruptWithAH),
   ("INTERRUPTWITHAX", .interruptWithAX), ("INTAX", .interruptWithAX), ("INTAL", .interruptWithAX),
   ("EPHEMERAL", .ephemeral), ("ONCE", .ephemeral)]

/-- A breakpoint kind, whatever its letter case. -/
def breakpointKind (token : String) : Except OperandError BreakpointKind :=
  match breakpointNames.lookup (Text.upper token) with
  | some kind => .ok kind
  | none => .error (.unknownBreakpointKind token)

end Operand

end DebugConsole
