import DebugConsole.Console
import DebugConsole.Screen.Pane

/-!
# The screen front end

* `App.create`: the front end on a host; it asks for the state, which only the status bar shows.
* `App.update`: what a message does; executing a line echoes it first.
* `App.ofKey`: the message that a key press is.
* `App.view`: the screen.
-/

namespace DebugConsole

/-- What the status bar says. -/
inductive Status where
  | stopped (address : Address)
  | detached (reason : String)
  deriving DecidableEq, Repr

namespace Status

/-- The text of the status bar. -/
def text : Status → String
  | .stopped address => " 🟢 Stopped at " ++ address.text
  | .detached reason => " ⛔ " ++ reason

end Status

/-- The screen front end. -/
structure App where
  width : Nat
  height : Nat
  session : Session
  history : History
  /-- The log pane as it was last drawn. -/
  logView : LogView
  /-- What has been typed since the last executed line. -/
  input : String
  status : Status

/-- What the front end reacts to. -/
inductive Message where
  | insert (c : Char)
  | backspace
  | execute
  | stopped (registers : Registers)
  | exit
  deriving DecidableEq, Repr

/-- A key press. -/
inductive Key where
  | char (c : Char)
  | backspace
  | ctrl (c : Char)
  | other
  deriving DecidableEq, Repr

namespace App

/-! ## Layout -/

/-- The width of the pane of registers. -/
def registersWidth (width : Nat) : Nat :=
  min 64 width

/-- The width of the pane of the log. -/
def logWidth (width : Nat) : Nat :=
  width - registersWidth width

/-- The height of both panes: what the prompt and the status bar leave. -/
def paneHeight (height : Nat) : Nat :=
  height - 2

/-- The screen. -/
def view (a : App) : Canvas :=
  let height := paneHeight a.height
  let registers := Pane.registers (Pane.inner (registersWidth a.width)) (Pane.inner height)
    a.session.previous a.session.current
  Canvas.blank a.width a.height Palette.normal
    |>.paste 0 0 (Pane.frame "console" (logWidth a.width) height a.logView.picture)
    |>.paste (logWidth a.width) 0
      (Pane.frame "regs" (registersWidth a.width) height registers)
    |>.paste 0 height (Pane.prompt a.width (min a.height 1) a.input)
    |>.paste 0 (height + 1) (Pane.status a.width (min (a.height - 1) 1) a.status.text)

/-! ## Running -/

variable (commands : CommandTable (Action Unit))

/-- The front end on a host. -/
def create (width height capacity : Nat) (session : Session) : Dialogue App := do
  let history := History.empty capacity
  let status :=
    match ← Dialogue.request .getState with
    | .ok (registers : Registers) => .stopped registers.ip
    | .error failure => .detached failure.message
  let logView :=
    LogView.draw (Pane.inner (logWidth width)) (Pane.inner (paneHeight height)) history
  return { width, height, session, history, logView, input := "", status }

/-- The front end with more output in its log, and the log pane up to date. -/
def log (a : App) (output : List Output) : App :=
  let history := a.history.writeAll output
  { a with history, logView := a.logView.refresh history }

/-- What a message does, and whether the front end is to be left. -/
def update (a : App) : Message → Dialogue (App × Bool)
  | .insert c => return ({ a with input := a.input.push c }, false)
  | .backspace => return ({ a with input := .ofList a.input.toList.dropLast }, false)
  | .execute => do
    let outcome ← Console.execute commands a.session a.input
    let app := { a with input := "", session := outcome.session }
    return (app.log (.debug ("> " ++ a.input) :: outcome.output), outcome.proceed = .exit)
  | .stopped registers =>
    return ({ a with status := .stopped registers.ip }.log [Console.stopped registers], false)
  | .exit => return (a, true)

/-- The message that a key press is; most keys do nothing. -/
def ofKey : Key → Option Message
  | .char '\n' => some .execute
  | .char '\t' => none
  | .char c => some (.insert c)
  | .backspace => some .backspace
  | .ctrl 'c' => some .exit
  | .ctrl _ | .other => none

/-- Handles all key presses, and tells whether one of them leaves the front end. -/
def press (a : App) : List Key → Dialogue (App × Bool)
  | [] => return (a, false)
  | key :: rest =>
    match ofKey key with
    | none => press a rest
    | some message => do
      let (a, leaves) ← update commands a message
      let (a, leavesLater) ← press a rest
      return (a, leaves || leavesLater)

end App

end DebugConsole
