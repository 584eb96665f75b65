import DebugConsole.Instruction.CodeSize
import DebugConsole.Text.Case
import DebugConsole.Text.Number

/-!
# Configuration

* `Config.read`: the configuration that environment variables give, or the first malformed one in
  the order bus, history, code size.
* `ConfigError.chain`: the messages of a fault, outermost first.
-/

namespace DebugConsole

/-- The message bus that the host is on. -/
inductive BusKind where
  | session | system
  deriving DecidableEq, Repr, Inhabited

/-- How the program is set up. -/
structure Config where
  bus : BusKind := .session
  service : String := "com.dosbox"
  symbols : Option String := none
  /-- The number of lines that the log holds. -/
  history : UInt64 := 1000
  codeSize : CodeSize := .bits16
  logFile : Option String := none
  deriving DecidableEq, Repr

/-- Why a configuration is refused. -/
inductive ConfigError where
  | badBus (value : String)
  | badHistory (value : String) (cause : NumberError)
  | emptyHistory
  | badCodeSize (value : String)
  deriving DecidableEq, Repr

namespace ConfigError

/-- The messages of a refused configuration, outermost first. -/
def chain : ConfigError → List String
  | .badBus value => ["DEBUGBOX_BUS: expected `session` or `system`, got \"" ++ value ++ "\""]
  | .badHistory value cause =>
    ["DEBUGBOX_HISTORY: bad line count \"" ++ value ++ "\"", cause.message]
  | .emptyHistory => ["DEBUGBOX_HISTORY: must be at least 1"]
  | .badCodeSize value => ["DEBUGBOX_BITNESS: expected 16 or 32, got \"" ++ value ++ "\""]

end ConfigError

namespace Config

/-- A bus by its name, whatever the letter case. -/
def readBus (value : String) : Except ConfigError BusKind :=
  if Text.lower value = "session" then .ok .session
  else if Text.lower value = "system" then .ok .system
  else .error (.badBus value)

/-- A number of lines, at least one. -/
def readHistory (value : String) : Except ConfigError UInt64 :=
  match Text.readUnsigned 10 UInt64.size value with
  | .error cause => .error (.badHistory value cause)
  | .ok 0 => .error .emptyHistory
  | .ok n => .ok (UInt64.ofNat n)

/-- A code size in bits. -/
def readCodeSize (value : String) : Except ConfigError CodeSize :=
  if value = "16" then .ok .bits16
  else if value = "32" then .ok .bits32
  else .error (.badCodeSize value)

/-- The value of a variable through its reader, or a default if it is not set. -/
def orDefault {α : Type} (default : α) (read : String → Except ConfigError α) :
    Option String → Except ConfigError α
  | none => .ok default
  | some value => read value

/-- The configuration that environment variables give. -/
def read (lookup : String → Option String) : Except ConfigError Config := do
  let defaults : Config := {}
  let bus ← orDefault defaults.bus readBus (lookup "DEBUGBOX_BUS")
  let history ← orDefault defaults.history readHistory (lookup "DEBUGBOX_HISTORY")
  let codeSize ← orDefault defaults.codeSize readCodeSize (lookup "DEBUGBOX_BITNESS")
  return {
    bus, history, codeSize
    service := (lookup "DEBUGBOX_SERVICE").getD defaults.service
    symbols := lookup "DEBUGBOX_SYMBOLS"
    logFile := lookup "DEBUGBOX_LOG" }

end Config

end DebugConsole
