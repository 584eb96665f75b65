import Mathlib.Data.List.Forall2
import DebugConsole.Proofs.Command.Failures
import DebugConsole.Proofs.Console.Dispatch
import DebugConsole.Proofs.Console.Steps
import DebugConsole.Proofs.Text.Tokens

/-!
# Lines of tokens

A line that is made of tokens, joined by single spaces, calls the command that the first token
names, with the others as its words.

- **Lines** (`reading_intercalate`): the order of such a line is what the command reads from the
  words.
- **Addresses** (`execute_runTo`, `execute_setBreakpoint`, `execute_readMemory`): a command with an
  address behind it asks for that address.
- **Steps** (`take_single_ok`, `take_single_error`): what a line comes to that makes one request.
- **Histories** (`history_forall₂`): lines that leave the session alone, one after the other.
-/

namespace DebugConsole.Console

variable {σ α : Type}

/-! ## Lines -/

section Lines

variable {name : String} {words : List String}

/-- Only the words of a line count. -/
theorem call?_of_words {line : String} (hname : CommandTable.isName name = true)
    (hwords : Text.words line = name :: words) : call? line = some (name, words) := by
  have hline : Text.isBlankLine line = false := by
    rw [← Bool.not_eq_true, isBlankLine_iff (hwords ▸ Text.parted_words line)]
    intro hblank
    obtain ⟨hne, hnone⟩ := CommandTable.isName_iff.mp hname
    obtain ⟨c, hc⟩ := List.exists_mem_of_ne_nil name.toList (by simpa using hne)
    have hall := List.all_eq_true.mp (hblank name (by simp)) c hc
    rw [hnone c hc] at hall
    cases hall
  simp [call?, hline, hwords]

theorem call?_intercalate (hname : CommandTable.isName name = true)
    (hwords : ∀ word ∈ words, Text.IsWord word) :
    call? (" ".intercalate (name :: words)) = some (name, words) := by
  have htokens : ∀ token ∈ name :: words, Text.IsWord token :=
    List.forall_mem_cons.mpr ⟨CommandTable.isWord_of_isName hname, hwords⟩
  exact call?_of_words hname (Text.words_intercalate (by simp) htokens)

/-- A line whose first word is a name: the command that has it reads the other words, then carries
out the order that they give. -/
theorem execute_of_words {line first : String} {s : Session}
    (hname : CommandTable.isName name = true) (hwords : Text.words line = name :: words)
    (hfind : (builtinTable.find? name).map Builtin.firstName = some first) :
    execute builtinTable s line =
      whenRead s (Order.read builtinTable.help s words first) (Order.dialogue s) := by
  obtain ⟨command, hcommand, rfl⟩ := Option.map_eq_some_iff.mp hfind
  rw [execute_eq, reading, call?_of_words hname hwords]
  simp only [hcommand, whenRead]
  cases Order.read builtinTable.help s words (Builtin.firstName command) <;> rfl

/-- A name, then words: the command that has the name reads the words. -/
theorem reading_intercalate {first : String} {s : Session} {o : Order}
    (hname : CommandTable.isName name = true)
    (hwords : ∀ word ∈ words, Text.IsWord word)
    (hfind : (builtinTable.find? name).map Builtin.firstName = some first)
    (hread : Order.read builtinTable.help s words first = .ok o) :
    reading s (" ".intercalate (name :: words)) = .order o := by
  obtain ⟨command, hcommand, rfl⟩ := Option.map_eq_some_iff.mp hfind
  refine reading_of_command? ?_ hread
  simp [command?, call?_intercalate hname hwords, hcommand]

end Lines

/-! ## Addresses -/

section Addresses

variable {name token : String} {s : Session} {a : Address}

/-- A line of two words: the command that the first one names reads the second one. -/
theorem execute_operand (first : String) {o : Order} (hname : CommandTable.isName name = true)
    (hfind : (builtinTable.find? name).map Builtin.firstName = some first)
    (hword : Text.IsWord token) (hread : Order.read builtinTable.help s [token] first = .ok o) :
    execute builtinTable s (name ++ " " ++ token) = o.dialogue s := by
  have hfirst : Text.IsWord name := CommandTable.isWord_of_isName hname
  have hwords : Text.words (name ++ " " ++ token) = [name, token] := by
    rw [Text.words_append_space, hfirst.words_eq, hword.words_eq]
    rfl
  rw [execute_of_words hname hwords hfind, hread]
  rfl

theorem execute_runTo (hword : Text.IsWord token)
    (haddress : Operand.address s .code token = .ok a) :
    execute builtinTable s ("ga" ++ " " ++ token) = Order.single s (.runTo a) := by
  refine execute_operand "RunToAddress" (o := .request _) (by decide) (by decide +kernel) hword ?_
  simp only [Order.read, Order.word, List.drop_zero, List.headD_cons, haddress]
  rfl

theorem execute_setBreakpoint (hword : Text.IsWord token)
    (haddress : Operand.address s .code token = .ok a) :
    execute builtinTable s ("bp" ++ " " ++ token) =
      Order.single s (.setBreakpoint ⟨a, .normal, 0, 0⟩) := by
  refine execute_operand "SetBreakpoint" (o := .request _) (by decide) (by decide +kernel) hword ?_
  simp only [Order.read, Order.word, List.drop_zero, List.headD_cons, haddress]
  rfl

theorem execute_readMemory (hword : Text.IsWord token)
    (haddress : Operand.address s .data token = .ok a) :
    execute builtinTable s ("d" ++ " " ++ token) =
      Order.single s (.readMemory a Builtin.defaultBytes) := by
  refine execute_operand "GetMemory" (o := .request _) (by decide) (by decide +kernel) hword ?_
  simp only [Order.read, Order.word, List.drop_zero, List.headD_cons, haddress]
  rfl

end Addresses

/-! ## Steps -/

section Steps

variable {host : Host σ} {x x' : σ} {s : Session} {line : String} {r : Request}

theorem requests_single (host : Host σ) (x : σ) (s : Session) (r : Request) :
    ((Order.single s r).converse host x).requests = [r] := by
  rcases hhost : host r x with ⟨e | reply, x'⟩
  · rw [Order.single, Dialogue.converse_orFail_error hhost]
    rfl
  · rw [Order.single, Dialogue.converse_orFail_ok hhost]
    rfl

theorem take_single_ok {reply : r.Reply} (h : execute builtinTable s line = Order.single s r)
    (hhost : host r x = (.ok reply, x')) :
    take builtinTable host s x (.line line) =
      ⟨.line line, s, .continue, [⟨r, .ok reply⟩], (r.answerLines reply).map .info,
        s.learn r reply, x'⟩ := by
  rw [take, h, Order.single, Dialogue.converse_orFail_ok hhost]
  rfl

theorem take_single_error {e : HostFailure} (h : execute builtinTable s line = Order.single s r)
    (hhost : host r x = (.error e, x')) :
    take builtinTable host s x (.line line) =
      ⟨.line line, s, .continue, [⟨r, .error e⟩], [.error ("Host error: " ++ e.message)], s,
        x'⟩ := by
  rw [take, h, Order.single, Dialogue.converse_orFail_error hhost]
  rfl

end Steps

/-! ## Histories -/

/-- Steps that leave the session alone, whatever state the host is in. -/
theorem history_forall₂ {commands : CommandTable (Action Unit)} {host : Host σ} {s : Session}
    {P : α → Stepped σ → Prop} {step : α → Step σ} {items : List α}
    (h : ∀ a ∈ items, ∀ x, P a (take commands host s x (step a)) ∧
      (take commands host s x (step a)).session = s) (x : σ) :
    List.Forall₂ P items (history commands host s x (items.map step)) := by
  induction items generalizing x with
  | nil => exact .nil
  | cons a rest ih =>
    obtain ⟨ha, hrest⟩ := List.forall_mem_cons.mp h
    obtain ⟨hstep, hsession⟩ := ha x
    rw [List.map_cons, history]
    refine .cons hstep ?_
    rw [hsession]
    exact ih hrest _

end DebugConsole.Console
