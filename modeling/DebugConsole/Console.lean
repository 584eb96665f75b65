import DebugConsole.Command.Builtin

/-!
# The console

* `Console.execute`: one command line, as a dialogue with the host.
* `Console.stopped`: the line that a stop notification prints; it leaves the session alone.
-/

namespace DebugConsole

/-- Whether the console goes on after a line. -/
inductive Proceed where
  | continue | exit
  deriving DecidableEq, Repr

/-- What a command line leads to. -/
structure Outcome where
  proceed : Proceed
  session : Session
  output : List Output

namespace Console

variable (commands : CommandTable (Action Unit))

/-- What a finished command leads to; a failure is reported behind its output. -/
def outcome (result : Except CommandError Unit × Context) : Outcome :=
  let context := result.2
  let report :=
    match result.1 with
    | .ok () => []
    | .error e => [Output.error e.message]
  ⟨if context.leaving then .exit else .continue, context.session, context.output ++ report⟩

/-- Runs the command that a line names, with the words behind it as arguments. -/
def run (session : Session) (name : String) (arguments : List String) : Dialogue Outcome :=
  match commands.find? name with
  | none =>
    .done ⟨.continue, session, [.error ("Unknown command \"" ++ name ++ "\"")]⟩
  | some command => do
    let context := { arguments := ⟨arguments⟩, session, help := commands.help }
    return outcome (← command.handler.run context)

/-- Executes a command line; a blank one does nothing. -/
def execute (session : Session) (line : String) : Dialogue Outcome :=
  if Text.isBlankLine line then .done ⟨.continue, session, []⟩
  else
    match Text.words line with
    | [] => .done ⟨.continue, session, []⟩
    | name :: arguments => run commands session name arguments

/-- The line that reports a stop notification. -/
def stopped (r : Registers) : Output :=
  .info ("-> Stopped at " ++ r.ip.text)

end Console

end DebugConsole
