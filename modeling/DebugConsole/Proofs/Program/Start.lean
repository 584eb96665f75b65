import DebugConsole.Program
import DebugConsole.Proofs.Program.Files
import DebugConsole.Proofs.Program.Reports
import DebugConsole.Proofs.Repl.Leaving
import DebugConsole.Proofs.Repl.Notifications

/-!
# Starting and running

The program ends with an error just if a step of its start fails, and tells the first one that does;
once started it always ends well (`fails_first_or_executes`).

- **Faults** (`World.faults`): what is wrong with the steps of a start, each looked at by itself. The
  start comes to the first of them (`start_of_faults`).
- **Lines** (`exists_executed`): a run takes the lines in front of the first one that leaves, as
  steps of a console on the bus.
- **Reports** (`Report.Fails`, `Report.Executes`): what is left behind by a start that failed, and by
  a run.
- **The log file** (`World.Logs`): made as soon as the configuration is valid, whatever fails later,
  and all that is written to the log is in it.
-/

namespace DebugConsole

variable {σ : Type}

/-! ## Faults -/

namespace World

/-- The bus that the environment names. -/
def bus (w : World) : BusKind :=
  (Config.orDefault .session Config.readBus (w.environment "DEBUGBOX_BUS")).toOption.getD .session

/-- The name of the service. -/
def service (w : World) : String :=
  (w.environment "DEBUGBOX_SERVICE").getD "com.dosbox"

/-- The files when so much was written to the log, if it is kept in a file. -/
def logged (w : World) (log : List UInt8) : FileTree :=
  match w.environment "DEBUGBOX_LOG" with
  | none => w.files
  | some path => ((w.files.create path).toOption.map (·.append path log)).getD w.files

/-- What is in the log when the symbols are read. -/
def earlyLog (w : World) : List UInt8 :=
  [.connecting w.bus, .connected w.service].flatMap w.written

/-- What is wrong with the configuration. -/
def configFault? (w : World) : Option StartError :=
  match Config.read w.environment with
  | .ok _ => none
  | .error cause => some (.config cause)

/-- Why the log file that the environment names cannot be made. -/
def logFault? (w : World) : Option StartError :=
  (w.environment "DEBUGBOX_LOG").bind fun path =>
    match w.files.create path with
    | .ok _ => none
    | .error cause => some (.logFile path cause)

/-- Why the bus that the environment names cannot be used. -/
def busFault? (w : World) : Option StartError :=
  if w.reachable w.bus then none else some (.bus (w.refusal w.bus))

/-- What is wrong with the name of the service. -/
def serviceFault? (w : World) : Option StartError :=
  (Wire.BusName.fault? w.service).map (.service w.service)

/-- Why the symbol file that the environment names cannot be loaded. It is read when there is a log
file already, with something in it: it may be the same file. -/
def symbolsFault? (w : World) : Option StartError :=
  (w.environment "DEBUGBOX_SYMBOLS").bind fun path =>
    match SymbolTable.ofFile path ((w.logged w.earlyLog).read path) with
    | .ok _ => none
    | .error cause => some (.symbols cause)

/-- Everything that is wrong with the steps of a start, in their order. -/
def faults (w : World) : List StartError :=
  [w.configFault?, w.logFault?, w.busFault?, w.serviceFault?, w.symbolsFault?].filterMap id

/-- The symbols of the file that the environment names. -/
def symbols (w : World) : SymbolTable :=
  match w.environment "DEBUGBOX_SYMBOLS" with
  | none => {}
  | some path =>
    (SymbolTable.ofFile path ((w.logged w.earlyLog).read path)).toOption.getD {}

/-- The code size that the environment gives. -/
def codeSize (w : World) : CodeSize :=
  (Config.orDefault .bits16 Config.readCodeSize (w.environment "DEBUGBOX_BITNESS")).toOption.getD
    .bits16

/-- The program as it is when nothing is wrong. -/
def started (w : World) : Started where
  logFile := w.environment "DEBUGBOX_LOG"
  service := w.service
  session := { resolve := w.symbols.find?, codeSize := w.codeSize }

/-- What a start writes to the log when nothing is wrong. -/
def startLog (w : World) : List UInt8 :=
  [.connecting w.bus, .connected w.service, .loaded w.symbols.size].flatMap w.written

end World

/-- The log file: none is named, or the one that is named cannot be made, or it is made. -/
inductive World.LogFile (w : World) : Prop where
  | unnamed (hset : w.environment "DEBUGBOX_LOG" = none) (hfault : w.logFault? = none)
    (hlogged : ∀ log, w.logged log = w.files)
  | refused {path : String} {cause : FileError} (hset : w.environment "DEBUGBOX_LOG" = some path)
    (hcreate : w.files.create path = .error cause)
    (hfault : w.logFault? = some (.logFile path cause)) (hlogged : ∀ log, w.logged log = w.files)
  | made {path : String} {files : FileTree} (hset : w.environment "DEBUGBOX_LOG" = some path)
    (hcreate : w.files.create path = .ok files) (hfault : w.logFault? = none)
    (hlogged : ∀ log, w.logged log = files.append path log)

theorem World.logFile (w : World) : w.LogFile := by
  cases hset : w.environment "DEBUGBOX_LOG" with
  | none => exact .unnamed hset (by simp [logFault?, hset]) (by simp [logged, hset])
  | some path =>
    cases hcreate : w.files.create path with
    | error cause =>
      exact .refused hset hcreate (by simp [logFault?, hset, hcreate])
        (by simp [logged, hset, hcreate, Except.toOption])
    | ok files =>
      exact .made hset hcreate (by simp [logFault?, hset, hcreate])
        (by simp [logged, hset, hcreate, Except.toOption])

/-- A configuration says what the environment says. -/
theorem Config.of_read {w : World} {c : Config} (h : read w.environment = .ok c) :
    c.bus = w.bus ∧ c.codeSize = w.codeSize ∧ c.service = w.service ∧
      c.symbols = w.environment "DEBUGBOX_SYMBOLS" ∧ c.logFile = w.environment "DEBUGBOX_LOG" := by
  obtain ⟨bus, hbus, h⟩ := bind_ok h
  obtain ⟨history, -, h⟩ := bind_ok h
  obtain ⟨codeSize, hcodeSize, h⟩ := bind_ok h
  cases h
  refine ⟨?_, ?_, rfl, rfl, rfl⟩
  · simp [World.bus, hbus, Except.toOption]
  · simp [World.codeSize, hcodeSize, Except.toOption]

namespace Program

variable {w : World}

/-- Writing on is as if all had been written at once. -/
theorem write_logged (h : w.logFault? = none) (log bytes : List UInt8) :
    (⟨w.logged log, log⟩ : Traces).write (w.environment "DEBUGBOX_LOG") bytes =
      ⟨w.logged (log ++ bytes), log ++ bytes⟩ := by
  cases w.logFile with
  | unnamed hset _ hlogged => simp [Traces.write, hset, hlogged]
  | refused _ _ hfault =>
    rw [hfault] at h
    cases h
  | made hset hcreate _ hlogged =>
    simp [Traces.write, hset, hlogged, FileTree.append_append_of_create hcreate]

theorem createLog_eq (w : World) : createLog w.files (w.environment "DEBUGBOX_LOG") =
    match w.logFault? with
    | some e => .error e
    | none => .ok (w.logged []) := by
  cases w.logFile with
  | unnamed hset hfault hlogged => rw [hset, hfault, hlogged, createLog]
  | refused hset hcreate hfault =>
    rw [hset, hfault, createLog, hcreate]
    rfl
  | made hset hcreate hfault hlogged =>
    rw [hset, hfault, hlogged, createLog, hcreate, FileTree.append_nil_of_create hcreate]
    rfl

theorem loadSymbols_eq (w : World) :
    loadSymbols (w.logged w.earlyLog) (w.environment "DEBUGBOX_SYMBOLS") =
      match w.symbolsFault? with
      | some e => .error e
      | none => .ok w.symbols := by
  unfold World.symbolsFault? World.symbols
  cases w.environment "DEBUGBOX_SYMBOLS" with
  | none => rfl
  | some path =>
    simp only [Option.bind_some, loadSymbols]
    cases SymbolTable.ofFile path ((w.logged w.earlyLog).read path) <;> rfl

/-- The first fault of some steps is their outcome, and everything that they wrote to the log is in
the log file. If there is no fault, the program is ready. -/
structure Ends (w : World) (faults : List StartError)
    (outcome : Except StartError Started × Traces) : Prop where
  first {e : StartError} {later : List StartError} (h : faults = e :: later) : outcome.1 = .error e
  ready (h : faults = []) : outcome = (.ok w.started, ⟨w.logged w.startLog, w.startLog⟩)
  logged : outcome.2.files = w.logged outcome.2.log

theorem Ends.fault {e : StartError} {later : List StartError} {log : List UInt8} :
    Ends w (e :: later) (.error e, ⟨w.logged log, log⟩) where
  first h := by
    cases h
    rfl
  ready h := by cases h
  logged := rfl

theorem ends_load {config : Config} (hread : Config.read w.environment = .ok config)
    (hlog : w.logFault? = none) :
    Ends w w.symbolsFault?.toList (load config w ⟨w.logged w.earlyLog, w.earlyLog⟩) := by
  obtain ⟨-, hcodeSize, hservice, hsymbols, hlogFile⟩ := Config.of_read hread
  have hstartLog : w.earlyLog ++ w.written (.loaded w.symbols.size) = w.startLog := by
    simp [World.earlyLog, World.startLog]
  unfold load
  rw [hcodeSize, hservice, hsymbols, hlogFile, loadSymbols_eq]
  cases w.symbolsFault? with
  | some e => exact .fault
  | none =>
    simp only [write_logged hlog, hstartLog]
    exact ⟨nofun, fun _ => rfl, rfl⟩

theorem ends_connect {config : Config} (hread : Config.read w.environment = .ok config)
    (hlog : w.logFault? = none) :
    Ends w ([w.busFault?, w.serviceFault?, w.symbolsFault?].filterMap id)
      (connect config w { files := w.logged [] }) := by
  obtain ⟨hbus, -, hservice, -, hlogFile⟩ := Config.of_read hread
  have hearlyLog : [] ++ w.written (.connecting w.bus) ++ w.written (.connected w.service) =
      w.earlyLog := by
    simp [World.earlyLog]
  unfold connect
  rw [hbus, hservice, hlogFile]
  simp only [write_logged hlog, hearlyLog]
  unfold World.busFault? World.serviceFault?
  cases w.reachable w.bus with
  | false => exact .fault
  | true =>
    cases Wire.BusName.fault? w.service with
    | some fault => exact .fault
    | none =>
      have hload := ends_load hread hlog
      cases hsymbols : w.symbolsFault? <;> rwa [hsymbols] at hload

/-- With a valid configuration, the rest of the steps decide how the start ends. -/
theorem ends_start {config : Config} (hread : Config.read w.environment = .ok config) :
    Ends w w.faults (start w) := by
  obtain ⟨-, -, -, -, hlogFile⟩ := Config.of_read hread
  have hconfig : w.configFault? = none := by simp only [World.configFault?, hread]
  unfold start World.faults
  simp only [hread, hlogFile, createLog_eq, hconfig]
  cases hlog : w.logFault? with
  | none => exact ends_connect hread hlog
  | some e =>
    have hfiles : w.logged [] = w.files := by
      cases w.logFile with
      | unnamed _ _ hlogged => exact hlogged []
      | refused _ _ _ hlogged => exact hlogged []
      | made _ _ hfault =>
        rw [hfault] at hlog
        cases hlog
    rw [← hfiles]
    exact .fault

/-- The first fault ends the start. -/
theorem start_of_faults {e : StartError} {later : List StartError} (h : w.faults = e :: later) :
    (start w).1 = .error e := by
  cases hread : Config.read w.environment with
  | error cause =>
    simp only [World.faults, World.configFault?, hread] at h
    cases h
    simp only [start, hread]
  | ok config => exact (ends_start hread).first h

/-- Without faults, the program is ready. -/
theorem start_of_no_faults (h : w.faults = []) :
    start w = (.ok w.started, ⟨w.logged w.startLog, w.startLog⟩) := by
  cases hread : Config.read w.environment with
  | error cause => simp [World.faults, World.configFault?, hread] at h
  | ok config => exact (ends_start hread).ready h

/-- Once the configuration is valid, everything that is written to the log is in its file. -/
theorem start_files (w : World) :
    (start w).2.files = match w.configFault? with
      | some _ => w.files
      | none => w.logged (start w).2.log := by
  cases hread : Config.read w.environment with
  | error cause => simp only [start, World.configFault?, hread]
  | ok config =>
    simp only [World.configFault?, hread]
    exact (ends_start hread).logged

end Program

/-! ## Lines -/

theorem Text.trimEnd_trimEnd {p q : Char → Bool} (h : ∀ c, p c = true → q c = true) (s : String) :
    Text.trimEnd p (Text.trimEnd q s) = Text.trimEnd q s := by
  have hidempotent : ((s.toList.reverse.dropWhile q).dropWhile p) = s.toList.reverse.dropWhile q := by
    have hhead := List.head?_dropWhile_not q s.toList.reverse
    cases hrest : s.toList.reverse.dropWhile q with
    | nil => rfl
    | cons c rest =>
      rw [hrest] at hhead
      have hq : q c = false := hhead
      refine List.dropWhile_cons_of_neg fun hp => ?_
      rw [h c hp] at hq
      cases hq
  simp only [Text.trimEnd, Text.dropEndWhile, String.toList_ofList, List.reverse_reverse,
    hidempotent]

/-- The lines of an input have no carriage returns at their ends. -/
theorem Input.trimEnd_of_mem_lines {input : List Chunk} {line : String} (h : line ∈ lines input) :
    Text.trimEnd (· = '\r') line = line := by
  obtain ⟨bytes, -, rfl⟩ := List.mem_map.mp h
  exact Text.trimEnd_trimEnd (by simp) _

namespace Repl

/-- The lines of an input up to the first one that leaves are executed, and no others. -/
theorem exists_executed (host : Host σ) (x : σ) (s : Session) (input : List Chunk) :
    ∃ executed later, Input.lines input = executed ++ later ∧
      (∀ line ∈ executed, ¬ Console.Leaves line) ∧ (∀ line ∈ later.head?, Console.Leaves line) ∧
      ConsistsOf ((run builtinTable s (Event.ofInput input)).converse host x) s x
        (Console.history builtinTable host s x (executed.map .line)) := by
  obtain ⟨handled, rest, hlines, hhandled, hrest⟩ :=
    Event.exists_ends ((Input.lines input).map Event.line)
  obtain ⟨executed, later, hsplit, rfl, rfl⟩ := List.map_eq_append_iff.mp hlines
  have htrim : ∀ line ∈ executed ++ later, Text.trimEnd (· = '\r') line = line :=
    fun line hline => Input.trimEnd_of_mem_lines (hsplit ▸ hline)
  have hends : ∀ line ∈ executed ++ later, ((Event.line line).Ends ↔ Console.Leaves line) := by
    intro line hline
    rw [Event.Ends, htrim line hline]
  have hsteps : (executed.map Event.line).filterMap Event.step? =
      executed.map (@Console.Step.line σ) := by
    rw [List.filterMap_map, ← List.filterMap_eq_map]
    refine List.filterMap_congr fun line hline => ?_
    exact congrArg (some ∘ Console.Step.line) (htrim line (List.mem_append_left _ hline))
  have hevents : Event.ofInput input =
      executed.map .line ++ (later.map .line ++ [.endOfInput]) := by
    rw [Event.ofInput, hsplit, List.map_append, List.append_assoc]
  refine ⟨executed, later, hsplit, fun line hline => ?_, fun line hline => ?_, ?_⟩
  · rw [← hends line (List.mem_append_left _ hline)]
    exact hhandled _ (List.mem_map_of_mem hline)
  · rw [← hends line (List.mem_append_right _ (List.mem_of_mem_head? hline))]
    refine hrest _ ?_
    rw [List.head?_map]
    exact Option.mem_map_of_mem _ hline
  · rw [hevents, ← hsteps]
    refine converse_run_append host x s hhandled ?_
    cases later with
    | nil => simp [Event.Ends]
    | cons line later => exact hrest

/-- Notifications change neither what is asked nor what the host comes to. -/
theorem converse_run_typed (host : Host σ) (x : σ) (s : Session) (events : List Event) :
    let c := (run builtinTable s events).converse host x
    let typed := (run builtinTable s (events.filter Event.isTyped)).converse host x
    c.exchanges = typed.exchanges ∧ c.value.session = typed.value.session ∧ c.host = typed.host := by
  let l : Loop σ := ⟨s, x, true⟩
  have hrun := converse_run builtinTable host l rfl
  have hfilter := Loop.summary_filter builtinTable host l events
  rwa [← hrun, ← hrun] at hfilter

end Repl

/-! ## Reports -/

namespace Program

variable {w : World}

theorem run_of_faults {e : StartError} {later : List StartError} (h : w.faults = e :: later)
    (transport : Transport σ) (input : List Chunk) (s : σ) :
    run w transport input s =
      ⟨1, { err := e.report (w.stack e) }, [], (start w).2.files, (start w).2.log, s⟩ := by
  have hstart := start_of_faults h
  unfold run
  generalize start w = outcome at hstart ⊢
  obtain ⟨result, traces⟩ := outcome
  cases hstart
  rfl

theorem run_of_no_faults (h : w.faults = []) (transport : Transport σ) (input : List Chunk)
    (s : σ) :
    let c := (Repl.run builtinTable w.started.session (Event.ofInput input)).converse
      (Bus.host w.service transport) s
    let log := w.startLog ++ w.written .running
    run w transport input s = ⟨0, Terminal.writeAll {} c.value.output,
      c.requests.map (.ofRequest w.service), w.logged log, log, c.host⟩ := by
  have hlog : w.logFault? = none := by
    simp only [World.faults, List.filterMap_eq_nil_iff, List.forall_mem_cons] at h
    exact h.2.1
  have hwrite := write_logged hlog w.startLog (w.written .running)
  unfold run
  rw [start_of_no_faults h]
  simp only [show w.started.logFile = w.environment "DEBUGBOX_LOG" from rfl, hwrite]
  rfl

/-- Once the configuration is valid, the log file holds everything that was written to the log. -/
theorem run_files (w : World) (transport : Transport σ) (input : List Chunk) (s : σ) :
    (run w transport input s).files = match w.configFault? with
      | some _ => w.files
      | none => w.logged (run w transport input s).log := by
  cases hfaults : w.faults with
  | cons e later =>
    rw [run_of_faults hfaults]
    exact start_files w
  | nil =>
    have hconfig : w.configFault? = none := by
      simp only [World.faults, List.filterMap_eq_nil_iff, List.forall_mem_cons] at hfaults
      exact hfaults.1
    rw [run_of_no_faults hfaults, hconfig]

/-- A report of a start that failed: the step is told with what it failed of, and nothing else is
said, and nothing is asked. -/
structure Report.Fails (r : Report σ) (w : World) (e : StartError) (s : σ) : Prop where
  exitCode : r.exitCode = 1
  err : r.terminal.err = "Error: " ++ e.headline ++ "\n" ++ StartError.causeText e.causes ++
    StartError.stackText (w.stack e)
  out : r.terminal.out = ""
  calls : r.calls = []
  host : r.host = s

/-- A report of a run that takes lines one after the other and ends well: what it comes to is what
the lines come to as steps of a console. -/
structure Report.Executes (r : Report σ) (w : World) (s : σ)
    (history : List (Console.Stepped σ)) : Prop where
  exitCode : r.exitCode = 0
  terminal : r.terminal = Terminal.writeAll {} (history.flatMap (·.output))
  calls : r.calls =
    (history.flatMap (·.exchanges)).map fun exchange => .ofRequest w.service exchange.request
  log : r.log = w.startLog ++ w.written .running
  host : r.host = Console.hostAfter s history

/-- Without faults, a run executes the lines in front of the first one that leaves. -/
theorem run_executes (h : w.faults = []) (transport : Transport σ) (input : List Chunk) (s : σ) :
    ∃ executed later, Input.lines input = executed ++ later ∧
      (∀ line ∈ executed, ¬ Console.Leaves line) ∧ (∀ line ∈ later.head?, Console.Leaves line) ∧
      (run w transport input s).Executes w s
        (Console.history builtinTable (Bus.host w.service transport) w.started.session s
          (executed.map .line)) := by
  obtain ⟨executed, later, hlines, hgoes, hleaves, hconsists⟩ :=
    Repl.exists_executed (Bus.host w.service transport) s w.started.session input
  refine ⟨executed, later, hlines, hgoes, hleaves, ?_⟩
  rw [run_of_no_faults h]
  refine ⟨rfl, ?_, ?_, rfl, hconsists.host⟩
  · rw [← hconsists.output]
  · rw [Conversation.requests, hconsists.exchanges, List.map_map]
    rfl

/-- Stop notifications between the lines change nothing of what is asked. -/
theorem run_notified (h : w.faults = []) (transport : Transport σ) {input : List Chunk} (s : σ)
    {events : List Event} (hevents : events.filter Event.isTyped = Event.ofInput input) :
    let c := (Repl.run builtinTable w.started.session events).converse
      (Bus.host w.service transport) s
    let r := run w transport input s
    c.requests.map (.ofRequest w.service) = r.calls ∧ c.host = r.host := by
  intro c r
  obtain ⟨hexchanges, -, hhost⟩ := Repl.converse_run_typed
    (Bus.host w.service transport) s w.started.session events
  rw [hevents] at hexchanges hhost
  have hr : r = _ := run_of_no_faults h transport input s
  rw [hr]
  exact ⟨congrArg (List.map _ <| List.map _ ·) hexchanges, hhost⟩

/-! ## The log file -/

end Program

/-- A log file is made: the configuration is valid and names a file that can be made. -/
def World.Logs (w : World) (path : String) : Prop :=
  w.configFault? = none ∧ w.environment "DEBUGBOX_LOG" = some path ∧
    ∃ files, w.files.create path = .ok files

namespace Program

theorem run_files_of_logs {path : String} (h : w.Logs path) (transport : Transport σ)
    (input : List Chunk) (s : σ) :
    let r := run w transport input s
    w.files.Keeps path r.log r.files := by
  intro r
  obtain ⟨hconfig, hset, files, hcreate⟩ := h
  have hfiles : r.files = files.append path r.log := by
    rw [run_files, hconfig]
    simp [World.logged, hset, hcreate, Except.toOption, r]
  rw [hfiles]
  exact FileTree.keeps_of_create hcreate r.log

theorem run_files_of_not_logs (h : ∀ path, ¬ w.Logs path) (transport : Transport σ)
    (input : List Chunk) (s : σ) : (run w transport input s).files = w.files := by
  rw [run_files]
  cases hconfig : w.configFault? with
  | some e => rfl
  | none =>
    cases w.logFile with
    | unnamed _ _ hlogged => exact hlogged _
    | refused _ _ _ hlogged => exact hlogged _
    | made hset hcreate => exact absurd ⟨hconfig, hset, _, hcreate⟩ (h _)

/-! ## Runs -/

/-- The program ends with exit code 1 just if a step of its start fails. It then tells the first
step that does and what it failed of, whatever there is to read, and asks the debug host nothing.
Otherwise it executes the lines up to the first one that leaves, whatever they are and whatever the
host answers, and ends with exit code 0; stop notifications between the lines change nothing of what
is asked. The log file is made whenever the configuration is valid and names one that can be made,
whatever fails later, and holds all that was written to the log. -/
theorem fails_first_or_executes (w : World) (transport : Transport σ) (s : σ) :
    (∀ input, (run w transport input s).exitCode = 1 ↔ w.faults ≠ []) ∧
    (∀ e later, w.faults = e :: later →
      ∃ report : Report σ, report.Fails w e s ∧ ∀ input, run w transport input s = report) ∧
    (w.faults = [] → ∀ input,
      let host := Bus.host w.service transport
      let r := run w transport input s
      (∃ executed later, Input.lines input = executed ++ later ∧
        (∀ line ∈ executed, ¬ Console.Leaves line) ∧
        (∀ line ∈ later.head?, Console.Leaves line) ∧
        r.Executes w s
          (Console.history builtinTable host w.started.session s (executed.map .line))) ∧
      ∀ events, events.filter Event.isTyped = Event.ofInput input →
        let c := (Repl.run builtinTable w.started.session events).converse host s
        c.requests.map (.ofRequest w.service) = r.calls ∧ c.host = r.host) ∧
    ∀ input, let r := run w transport input s
      (∀ path, w.Logs path → w.files.Keeps path r.log r.files) ∧
      ((∀ path, ¬ w.Logs path) → r.files = w.files) := by
  refine ⟨fun input => ?_, fun e later h => ?_, fun h input => ?_, fun input => ?_⟩
  · cases hfaults : w.faults with
    | nil => simp [run_of_no_faults hfaults]
    | cons e later => simp [run_of_faults hfaults]
  · exact ⟨_, ⟨rfl, e.report_eq _, rfl, rfl, rfl⟩, fun input => run_of_faults h transport input s⟩
  · exact ⟨run_executes h transport input s, fun events => run_notified h transport s⟩
  · exact ⟨fun path h => run_files_of_logs h transport input s,
      fun h => run_files_of_not_logs h transport input s⟩

/-- Every step fails, and they are mended one after the other: each time the first fault that is
left is told. With all of them mended the program runs, on malformed text and a host that refuses
everything. A log that is kept in the symbol file is a fault by itself. -/
theorem fails_first_or_executes_mended :
    let broken := [("DEBUGBOX_HISTORY", "lots"), ("DEBUGBOX_LOG", "gone/log"),
      ("DEBUGBOX_BUS", "SYSTEM"), ("DEBUGBOX_SERVICE", "here"), ("DEBUGBOX_SYMBOLS", "bad")]
    let sound := [("DEBUGBOX_HISTORY", "50"), ("DEBUGBOX_LOG", "./log"),
      ("DEBUGBOX_BUS", "session"), ("DEBUGBOX_SERVICE", "com.dosbox"),
      ("DEBUGBOX_SYMBOLS", "good")]
    let world (mended : Nat) : World :=
      { environment := fun name => (sound.take mended ++ broken.drop mended).lookup name
        files := ⟨[(["bad"], .file [0x61, 0x0A]), (["good"], .file [0x61, 0x20, 0x31, 0x0A])], []⟩
        reachable := fun bus => bus = .session }
    let faults : List StartError := [.config (.badHistory "lots" .invalidDigit),
      .logFile "gone/log" .notFound,
      .bus ["I/O error: No such file or directory (os error 2)",
        "No such file or directory (os error 2)"],
      .service "here" ⟨.missingColon, .missingPoint⟩, .symbols (.malformed "bad" ⟨1, .fieldCount⟩)]
    let told := [
      "Error: DEBUGBOX_HISTORY: bad line count \"lots\"\n\n" ++
        "Caused by:\n    invalid digit found in string\n",
      "Error: creating log file gone/log\n\n" ++
        "Caused by:\n    No such file or directory (os error 2)\n",
      "Error: connecting to D-Bus\n\n" ++
        "Caused by:\n    0: I/O error: No such file or directory (os error 2)\n" ++
        "    1: No such file or directory (os error 2)\n",
      "Error: creating proxy for here\n\n" ++
        "Caused by:\n    0: Neither a valid unique (must start with a `:`) nor a well-known " ++
        "(must contain at least 1 `.`) bus name\n" ++
        "    1: Neither a valid unique (must start with a `:`) nor a well-known " ++
        "(must contain at least 1 `.`) bus name\n",
      "Error: parsing bad\n\nCaused by:\n    line 1: expected `name offset`\n"]
    let transport : Transport Unit := fun call x => (.failed "Refused" call.member, x)
    let input : List Chunk := [.bytes [0xFF, 0x0A, 0x67], .bytes [0x0D, 0x0A, 0x71, 0x75, 0x69],
      .bytes [0x74, 0x0A, 0x67, 0x0A], .fault]
    let r := run (world 5) transport input ()
    let same : World :=
      { environment := fun name =>
          [("DEBUGBOX_LOG", "log"), ("DEBUGBOX_SYMBOLS", "log")].lookup name
        files := ⟨[(["log"], .file [0x61, 0x20, 0x31, 0x0A])], []⟩
        reachable := fun _ => true
        written := fun record => if record = .connected "com.dosbox" then [0x49, 0x0A] else [] }
    (∀ n < 6, (world n).faults = faults.drop n) ∧
    (∀ n < 5, ∃ report : Report Unit, (∀ input, run (world n) transport input () = report) ∧
      report.exitCode = 1 ∧ report.terminal = { err := told.getD n "" } ∧ report.calls = []) ∧
    r.exitCode = 0 ∧ r.calls.map (·.member) = ["Continue"] ∧
    r.terminal = { err := "Unknown command \"\uFFFD\"\nHost error: Refused: Continue\n" } ∧
    same.faults = [.symbols (.malformed "log" ⟨1, .fieldCount⟩)] ∧
    (∀ input, (run same transport input ()).exitCode = 1 ∧
      (run same transport input ()).files.read "log" = .ok [0x49, 0x0A]) := by
  intro broken sound world faults told transport input r same
  have hfaults : ∀ n < 6, (world n).faults = faults.drop n := by decide +kernel
  have htold : ∀ n, ∀ h : n < 5, "Error: " ++ (faults.get ⟨n, h⟩).headline ++ "\n" ++
      StartError.causeText (faults.get ⟨n, h⟩).causes = told.getD n "" := by decide +kernel
  have hsound : (world 5).faults = [] := hfaults 5 (by decide)
  have hsame : same.faults = [.symbols (.malformed "log" ⟨1, .fieldCount⟩)] := by decide +kernel
  refine ⟨hfaults, fun n hn => ?_, ?_, by decide +kernel, by decide +kernel, hsame, fun input => ?_⟩
  · obtain ⟨-, hfirst, -⟩ := fails_first_or_executes (world n) transport ()
    have hdrop : (world n).faults = faults.get ⟨n, hn⟩ :: faults.drop (n + 1) :=
      (hfaults n (by omega)).trans (List.drop_eq_getElem_cons hn)
    obtain ⟨report, hfails, hreport⟩ := hfirst _ _ hdrop
    have herr : report.terminal.err = told.getD n "" := by
      rw [hfails.err, htold n hn]
      exact String.append_empty
    refine ⟨report, hreport, hfails.exitCode, ?_, hfails.calls⟩
    rw [← herr, ← hfails.out]
  · obtain ⟨-, -, hruns, -⟩ := fails_first_or_executes (world 5) transport ()
    obtain ⟨⟨executed, later, -, -, -, hexecutes⟩, -⟩ := hruns hsound input
    exact hexecutes.exitCode
  · obtain ⟨-, hfirst, -⟩ := fails_first_or_executes same transport ()
    obtain ⟨report, hfails, hreport⟩ := hfirst _ _ hsame
    have hread : (run same transport [] ()).files.read "log" = .ok [0x49, 0x0A] := by
      decide +kernel
    rw [hreport input]
    exact ⟨hfails.exitCode, by rwa [hreport []] at hread⟩

end Program

end DebugConsole
