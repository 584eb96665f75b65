import DebugConsole.Host.Dialogue
import DebugConsole.Listing
import DebugConsole.Log
import DebugConsole.Operand

/-!
# What a command does

A command reads its arguments, asks the host, prints, and may change the session. It stops at the
first refused operand or failed request; what it printed and changed until then remains.

* `Arguments`: a cursor over the words behind the command name, which yields empty words at the end.
* `Action`: a dialogue with the host that carries the command's context along.
-/

namespace DebugConsole

/-- The words of a command line that have not been read yet. -/
structure Arguments where
  words : List String
  deriving DecidableEq, Repr

namespace Arguments

/-- The next word, or an empty one at the end. -/
def next (a : Arguments) : String × Arguments :=
  (a.words.headD "", ⟨a.words.drop 1⟩)

/-- All remaining words. -/
def rest (a : Arguments) : List String × Arguments :=
  (a.words, ⟨[]⟩)

end Arguments

/-- Why a command failed. -/
inductive CommandError where
  | operand (cause : OperandError)
  | host (cause : HostFailure)
  deriving DecidableEq, Repr

/-- The line that reports a failed command. -/
def CommandError.message : CommandError → String
  | .operand cause => "Parse error: " ++ cause.message
  | .host cause => "Host error: " ++ cause.message

/-- What a running command can see and change. -/
structure Context where
  arguments : Arguments
  session : Session
  /-- The lines that describe all commands. -/
  help : List String
  /-- What has been written, oldest first. -/
  output : List Output := []
  /-- Whether the console is to be left. -/
  leaving : Bool := false

/-- What a command does. Its context survives a failure. -/
abbrev Action := ExceptT CommandError (StateT Context Dialogue)

namespace Action

/-- Holds a dialogue with the host; a failed request fails the command. -/
def query {α : Type} (q : Query α) : Action α := fun context => do
  let answer ← q.run
  return (answer.mapError CommandError.host, context)

/-- Asks the host one thing. -/
def ask (r : Request) : Action r.Reply :=
  query (Query.ask r)

/-- A parsed operand; a refused one fails the command. -/
def parsed {α : Type} (operand : Except OperandError α) : Action α :=
  fun context => .done (operand.mapError CommandError.operand, context)

/-- The next argument, or an empty word at the end. -/
def nextArgument : Action String :=
  modifyGet fun context =>
    let (word, arguments) := context.arguments.next
    (word, { context with arguments })

/-- All remaining arguments. -/
def restArguments : Action (List String) :=
  modifyGet fun context =>
    let (words, arguments) := context.arguments.rest
    (words, { context with arguments })

/-- The next argument through a parser, or a default if it is omitted. -/
def optional {α : Type} (default : α) (parse : String → Except OperandError α) : Action α := do
  let word ← nextArgument
  if word.isEmpty then return default else parsed (parse word)

/-- The session as it is now. -/
def session : Action Session :=
  return (← get).session

/-- Makes a snapshot the session's current one. -/
def updateSession (r : Registers) : Action Unit :=
  modify fun context => { context with session := context.session.update r }

/-- Writes something. -/
def write (output : List Output) : Action Unit :=
  modify fun context => { context with output := context.output ++ output }

/-- Prints lines. -/
def print (lines : List String) : Action Unit :=
  write (lines.map Output.info)

/-- Prints a snapshot and makes it the session's current one. -/
def showRegisters (r : Registers) : Action Unit := do
  updateSession r
  print (Listing.registers r)

/-- An address in the next argument. -/
def nextAddress (context : Operand.Context) : Action Address := do
  let word ← nextArgument
  parsed (Operand.address (← session) context word)

end Action

end DebugConsole
