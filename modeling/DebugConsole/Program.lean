import DebugConsole.Bus
import DebugConsole.Config
import DebugConsole.Repl
import DebugConsole.Symbols

/-!
# The program in line mode

* `Program.start`: the steps before the first line is read, in order: configuration, log file, bus,
  service, symbols. The first failing step ends the program.
* `Traces.write`: the log, which may be kept in a file that a later step reads.
* `Program.run`: the whole program against a bus.
* `StartError.report`: how a failed start is told, with its causes.
-/

namespace DebugConsole

/-! ## Starting -/

/-- Why the program could not start. -/
inductive StartError where
  | config (cause : ConfigError)
  | logFile (path : String) (cause : FileError)
  | bus (causes : List String)
  | service (name : String) (fault : Wire.BusName.Fault)
  | symbols (cause : SymbolFileError)
  deriving DecidableEq, Repr

namespace StartError

/-- The messages of a failed start, outermost first. -/
def chain : StartError → List String
  | .config cause => cause.chain
  | .logFile path cause => ["creating log file " ++ path, cause.message]
  | .bus causes => "connecting to D-Bus" :: causes
  | .service name fault => ["creating proxy for " ++ name, fault.message, fault.message]
  | .symbols cause => cause.chain

/-- A cause behind its mark; further lines of it are indented as far. -/
def indented (mark : String) (cause : String) : String :=
  let margin := String.ofList ('\n' :: List.replicate mark.length ' ')
  mark ++ margin.intercalate ((cause.toList.splitOnP (· == '\n')).map String.ofList)

/-- The causes of a failed start, one a line and numbered if there are several. -/
def causeLines : List String → List String
  | [cause] => [indented "    " cause]
  | causes => causes.zipIdx.map fun (cause, i) =>
    let number := toString i
    indented (String.ofList (List.replicate (5 - number.length) ' ') ++ number ++ ": ") cause

/-- How a failed start is told, with its call stack if there is one. -/
def report (e : StartError) (stack : Option String) : String :=
  let lines :=
    match e.chain with
    | [] => ["Error: "]
    | [message] => ["Error: " ++ message]
    | message :: causes => ["Error: " ++ message, "", "Caused by:"] ++ causeLines causes
  let stackLines := stack.elim [] fun stack => ["", "Stack backtrace:", stack]
  String.join ((lines ++ stackLines).map (· ++ "\n"))

end StartError

/-- What is reported to the log, which the operator does not see. -/
inductive Record where
  /-- What the library of the bus reports while it connects. -/
  | connecting (bus : BusKind)
  | connected (service : String)
  | loaded (symbols : Nat)
  /-- Everything that is reported once lines are read. -/
  | running
  deriving DecidableEq, Repr

/-- What the program finds when it starts. -/
structure World where
  environment : String → Option String
  files : FileTree
  /-- Whether a bus can be reached. -/
  reachable : BusKind → Bool
  /-- Why a bus is out of reach, outermost cause first: as a rule, its socket does not exist. -/
  refusal : BusKind → List String := fun _ =>
    ["I/O error: " ++ FileError.notFound.message, FileError.notFound.message]
  /-- What a record is written as. That holds the time, and it is nothing at all for a record that
  the environment does not ask for, as it asks for none as a rule. -/
  written : Record → List UInt8 := fun _ => []
  /-- The call stack of a failed start, if the environment asks for it. -/
  stack : StartError → Option String := fun _ => none

/-- What a start leaves behind: files, and all that was written to the log. -/
structure Traces where
  files : FileTree
  log : List UInt8 := []

/-- Writes to the log, which is kept in a file if there is one. -/
def Traces.write (t : Traces) (logFile : Option String) (bytes : List UInt8) : Traces where
  files := logFile.elim t.files fun path => t.files.append path bytes
  log := t.log ++ bytes

/-- A program that is ready to read its first line. -/
structure Started where
  logFile : Option String
  service : String
  session : Session

namespace Program

/-- Makes the log file, if there is to be one. -/
def createLog (files : FileTree) : Option String → Except StartError FileTree
  | none => .ok files
  | some path => (files.create path).mapError (.logFile path)

/-- Reads the symbol file, if there is to be one. -/
def loadSymbols (files : FileTree) : Option String → Except StartError SymbolTable
  | none => .ok {}
  | some path => (SymbolTable.ofFile path (files.read path)).mapError .symbols

/-- The step behind the service: the symbols. -/
def load (config : Config) (w : World) (t : Traces) : Except StartError Started × Traces :=
  match loadSymbols t.files config.symbols with
  | .error e => (.error e, t)
  | .ok symbols =>
    let session : Session := { resolve := symbols.find?, codeSize := config.codeSize }
    (.ok ⟨config.logFile, config.service, session⟩,
      t.write config.logFile (w.written (.loaded symbols.size)))

/-- The steps behind the log file: the bus, the service on it, and the symbols. -/
def connect (config : Config) (w : World) (t : Traces) : Except StartError Started × Traces :=
  let t := t.write config.logFile (w.written (.connecting config.bus))
  if !w.reachable config.bus then (.error (.bus (w.refusal config.bus)), t)
  else
    match Wire.BusName.fault? config.service with
    | some fault => (.error (.service config.service fault), t)
    | none => load config w (t.write config.logFile (w.written (.connected config.service)))

/-- The steps before the first line is read, and what they leave behind. -/
def start (w : World) : Except StartError Started × Traces :=
  match Config.read w.environment with
  | .error cause => (.error (.config cause), { files := w.files })
  | .ok config =>
    match createLog w.files config.logFile with
    | .error e => (.error e, { files := w.files })
    | .ok files => connect config w { files }

/-- What a run of the program leaves behind, apart from what its libraries print on their own. -/
structure Report (σ : Type) where
  exitCode : UInt32
  terminal : Terminal
  calls : List MethodCall
  files : FileTree
  /-- All that was written to the log: if no file is named for it, to the same stream as errors. -/
  log : List UInt8
  host : σ

/-- The whole program with its standard input, against a transport to the bus. -/
def run {σ : Type} (w : World) (transport : Transport σ) (input : List Chunk) (s : σ) : Report σ :=
  match start w with
  | (.error e, t) => ⟨1, { err := e.report (w.stack e) }, [], t.files, t.log, s⟩
  | (.ok started, t) =>
    let dialogue := Repl.run builtinTable started.session (Event.ofInput input)
    let c := dialogue.converse (Bus.host started.service transport) s
    let t := t.write started.logFile (w.written .running)
    ⟨0, Terminal.writeAll {} c.value.output, c.requests.map (.ofRequest started.service), t.files,
      t.log, c.host⟩

end Program

end DebugConsole
