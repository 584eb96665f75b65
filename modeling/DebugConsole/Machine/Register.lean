/-!
# Registers by name

* `Register.name`: the printed name; an operand may spell it in any letter case.
* `Register.tag`, `Register.ofTag?`: the number that stands for a register on the wire.
-/

namespace DebugConsole

/-- The registers that can be named, in the order of their tags. -/
inductive Register where
  | flags | eax | ebx | ecx | edx | esi | edi | ebp | esp | eip
  | es | cs | ss | ds | fs | gs
  deriving DecidableEq, Repr, Inhabited

namespace Register

/-- Every register, in the order of the tags. -/
def all : List Register :=
  [.flags, .eax, .ebx, .ecx, .edx, .esi, .edi, .ebp, .esp, .eip, .es, .cs, .ss, .ds, .fs, .gs]

/-- The printed name. -/
def name : Register → String
  | .flags => "FLAGS"
  | .eax => "EAX"
  | .ebx => "EBX"
  | .ecx => "ECX"
  | .edx => "EDX"
  | .esi => "ESI"
  | .edi => "EDI"
  | .ebp => "EBP"
  | .esp => "ESP"
  | .eip => "EIP"
  | .es => "ES"
  | .cs => "CS"
  | .ss => "SS"
  | .ds => "DS"
  | .fs => "FS"
  | .gs => "GS"

/-- Whether a register holds a selector, sixteen bits wide. -/
def isSegment : Register → Bool
  | .es | .cs | .ss | .ds | .fs | .gs => true
  | _ => false

/-- The number that stands for a register. -/
def tag (r : Register) : UInt8 :=
  UInt8.ofNat r.ctorIdx

/-- The register a number stands for. -/
def ofTag? (tag : UInt8) : Option Register :=
  all[tag.toNat]?

@[simp] theorem ofTag?_tag (r : Register) : ofTag? r.tag = some r := by
  cases r <;> rfl

end Register

end DebugConsole
