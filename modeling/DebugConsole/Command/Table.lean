import DebugConsole.Text.Blank
import DebugConsole.Text.Case
import DebugConsole.Text.Number

/-!
# Command tables

Commands with their names, looked up without regard to letter case. The type of what a command does
is left open, so that lookup and help can be stated for every table.

* `CommandTable.build`: a table of commands, or the first offence: a command without names, a name
  that cannot be typed, or a name that two entries share.
* `CommandTable.find?`: the command that has a name.
* `CommandTable.help`: one line per command, sorted by first name, descriptions aligned.
-/

namespace DebugConsole

/-- A command with what it does, of type `η`. -/
structure Command (η : Type) where
  names : List String
  description : String
  handler : η

/-- Why a list of commands is no table. -/
inductive TableError where
  | noNames (description : String)
  | badName (name : String)
  | duplicate (name : String)
  deriving DecidableEq, Repr

/-- The wording of a table's fault. -/
def TableError.message : TableError → String
  | .noNames description => "command \"" ++ description ++ "\" has no names"
  | .badName name => "invalid command name \"" ++ name ++ "\""
  | .duplicate name => "command name \"" ++ name ++ "\" registered twice"

namespace CommandTable

/-- Whether a name can be typed as one word. -/
def isName (name : String) : Bool :=
  !name.isEmpty && !name.toList.any isBlank

/-- The first offence among some names, where `taken` holds the earlier names in upper case. -/
def nameOffence (taken : List String) : List String → Option TableError
  | [] => none
  | name :: rest =>
    if !isName name then some (.badName name)
    else if Text.upper name ∈ taken then some (.duplicate name)
    else nameOffence (Text.upper name :: taken) rest

/-- The first offence among some commands, where `taken` holds the earlier names in upper case. -/
def offence {η : Type} (taken : List String) : List (Command η) → Option TableError
  | [] => none
  | command :: rest =>
    if command.names.isEmpty then some (.noNames command.description)
    else
      match nameOffence taken command.names with
      | some e => some e
      | none => offence (command.names.map Text.upper ++ taken) rest

end CommandTable

/-- Commands whose names are well-formed and all different. -/
structure CommandTable (η : Type) where
  commands : List (Command η)
  noOffence : CommandTable.offence [] commands = none

namespace CommandTable

variable {η : Type}

/-- The table of some commands. -/
def build (commands : List (Command η)) : Except TableError (CommandTable η) :=
  match h : offence [] commands with
  | none => .ok ⟨commands, h⟩
  | some e => .error e

/-- The command that has a name, whatever the letter case. -/
def find? (t : CommandTable η) (name : String) : Option (Command η) :=
  t.commands.find? fun command => command.names.any (Text.sameName name)

/-- The key that help is sorted by: the first name in lower case. -/
def sortKey (command : Command η) : String :=
  Text.lower (command.names.headD "")

/-- The names of a command as help shows them. -/
def nameColumn (command : Command η) : String :=
  " ".intercalate command.names

/-- The width of the column of names: the most bytes that one of them takes. -/
def columnWidth (commands : List (Command η)) : Nat :=
  (commands.map fun command => (nameColumn command).utf8ByteSize).foldl max 0

/-- One line of help. -/
def helpLine (width : Nat) (command : Command η) : String :=
  Text.padEnd width (nameColumn command) ++ ": " ++ command.description

/-- The help of a table. -/
def help (t : CommandTable η) : List String :=
  (t.commands.mergeSort fun a b => decide (sortKey a ≤ sortKey b)).map
    (helpLine (columnWidth t.commands))

end CommandTable

end DebugConsole
