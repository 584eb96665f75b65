import DebugConsole.Host.Scripted
import DebugConsole.Main
import DebugConsole.Proofs.Command.Orders
import DebugConsole.Screen.App
import DebugConsole.Proofs.Command.Failures
import DebugConsole.Proofs.Command.Asking
import DebugConsole.Proofs.Command.OperandLemmas
import DebugConsole.Proofs.Console.FailedLines
import DebugConsole.Proofs.Repl.History
import DebugConsole.Proofs.Repl.Notifications
import DebugConsole.Proofs.Console.Snapshots
import DebugConsole.Proofs.Console.SteppingOver
import DebugConsole.Proofs.Console.Replay
import DebugConsole.Proofs.Console.SingleChange
import DebugConsole.Proofs.Console.WellFormedRequests
import DebugConsole.Proofs.Console.TypedLines
import DebugConsole.Proofs.Console.WriteBack
import DebugConsole.Proofs.Listing.Selectors
import DebugConsole.Proofs.Listing.Dump
import DebugConsole.Proofs.Text.Utf8Lemmas
import DebugConsole.Proofs.Text.Pieces
import DebugConsole.Proofs.Text.Tokens
import DebugConsole.Proofs.Wire.Reads
import DebugConsole.Proofs.Wire.RoundTrip
import DebugConsole.Proofs.Wire.Signatures
import DebugConsole.Proofs.Bus.Messages
import DebugConsole.Proofs.Bus.Simulation
import DebugConsole.Proofs.Bus.Requests
import DebugConsole.Proofs.Repl.Reading
import DebugConsole.Proofs.Text.Runs
import DebugConsole.Proofs.Text.LetterCase
import DebugConsole.Proofs.Command.Tables
import DebugConsole.Proofs.Console.Dispatch
import DebugConsole.Proofs.Command.CaseVariants
import DebugConsole.Proofs.Console.LetterCase
import DebugConsole.Proofs.Symbols.Definitions
import DebugConsole.Proofs.Console.SymbolOperands
import DebugConsole.Proofs.Screen.FrontEnds
import DebugConsole.Proofs.Instruction.Extent
import DebugConsole.Proofs.Log.Newest
import DebugConsole.Proofs.Repl.Leaving
import DebugConsole.Proofs.Program.Start
import DebugConsole.Proofs.Text.Numerals
import DebugConsole.Proofs.Command.Integers
import DebugConsole.Proofs.Command.TableFaults
import DebugConsole.Proofs.Symbols.Faults
import DebugConsole.Proofs.Console.Departures
import DebugConsole.Proofs.Console.ByteLists
import DebugConsole.Proofs.Command.Help
import DebugConsole.Proofs.Program.Configuration
import DebugConsole.Proofs.Listing.RegisterBlock
import DebugConsole.Proofs.Console.PrintedAddresses
import DebugConsole.Proofs.Repl.Writing
import DebugConsole.Proofs.Screen.LogPane
import DebugConsole.Proofs.Console.OmittedOperands
import DebugConsole.Proofs.Screen.Labels
import DebugConsole.Proofs.Screen.RegisterPane
import DebugConsole.Proofs.Program.Reports
