import DebugConsole.Console
import DebugConsole.Lines

/-!
# The event loop

Typed lines and stop notifications arrive on one queue and are handled one at a time.

* `Event.ofInput`: the events that reading an input gives.
* `Repl.run`: the loop, until a line leaves the console or the input ends.
-/

namespace DebugConsole

/-- What the loop waits for. -/
inductive Event where
  | line (text : String)
  | stopped (registers : Registers)
  | endOfInput
  deriving DecidableEq, Repr

/-- The events that reading an input gives. -/
def Event.ofInput (input : List Chunk) : List Event :=
  (Input.lines input).map .line ++ [.endOfInput]

namespace Repl

/-- What is left when the loop ends. -/
structure Result where
  session : Session
  output : List Output

/-- The result with earlier output in front. -/
def Result.after (earlier : List Output) (r : Result) : Result :=
  { r with output := earlier ++ r.output }

/-- Handles events until a line leaves the console or the input ends. -/
def run (commands : CommandTable (Action Unit)) (session : Session) :
    List Event → Dialogue Result
  | [] => .done ⟨session, []⟩
  | .endOfInput :: _ => .done ⟨session, []⟩
  | .stopped r :: rest => do
    let result ← run commands session rest
    return result.after [Console.stopped r]
  | .line text :: rest => do
    let outcome ← Console.execute commands session (Text.trimEnd (· = '\r') text)
    match outcome.proceed with
    | .exit => return ⟨outcome.session, outcome.output⟩
    | .continue =>
      let result ← run commands outcome.session rest
      return result.after outcome.output

end Repl

end DebugConsole
