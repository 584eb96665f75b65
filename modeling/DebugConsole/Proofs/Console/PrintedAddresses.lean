import DebugConsole.Host.Scripted
import DebugConsole.Proofs.Command.Addresses
import DebugConsole.Proofs.Console.Snapshots
import DebugConsole.Proofs.Console.TypedLines
import DebugConsole.Proofs.Listing.RegisterBlock

/-!
# Printed addresses

An address that the console prints is the address that a command takes it for, and an address that
is typed in any spelling is printed in one (`printed_addresses_reread`).

- **Digits** (`Text.FixedHex`): the one way in which a number is printed.
- **Operands** (`Reaches`): a word that is the same address in every session, so that commands ask
  for just that address.
- **Lines** (`Text.addressToken?`): the address on a printed line is its only word with a colon, or
  the first one.
- **Dialogues** (`Dialogue.Tells`): the lines show the addresses that the answers tell, in order.
-/

namespace DebugConsole

variable {σ : Type}

/-! ## Digits -/

namespace Text

/-- A number in upper-case hexadecimal, exactly so many digits wide. -/
structure FixedHex (width n : Nat) (s : String) : Prop where
  length : s.toList.length = width
  capital : ∀ c ∈ s.toList, c ∈ "0123456789ABCDEF".toList
  value : digits? 16 s.toList = some n

theorem hex_fixed {width n : Nat} (hwidth : width ≠ 0) (hn : n < 16 ^ width) :
    FixedHex width n (hex width n) := by
  have hne : hexDigits width n ≠ [] := by
    rw [← List.length_pos_iff, length_hexDigits]
    omega
  have hread : readDigits 16 (16 ^ width) 0 (hexDigits width n) = .ok n := by
    have hlimit : 0 * 16 ^ width + n < 16 ^ width := by simpa using hn
    simpa [readDigits] using readDigits_hexDigits hn hlimit []
  refine ⟨?_, ?_, ?_⟩
  · rw [hex, String.toList_ofList, length_hexDigits]
  · rw [hex, String.toList_ofList]
    exact forall_mem_hexDigits (by decide) width n
  · rw [hex, String.toList_ofList]
    exact ((readDigits_zero_eq_ok_iff (by decide) (Nat.pow_pos (by decide)) hne).mp hread).1

/-- No space stands among digits. -/
theorem isWord_of_digits? {s : String} {n : Nat} (h : digits? 16 s.toList = some n) : IsWord s := by
  refine ⟨?_, fun hspace => ?_⟩
  · rintro rfl
    cases h
  · exact absurd (isSome_of_digits? h ' ' hspace) (by decide)

/-- The first word of a printed line that has a colon in it. -/
def addressToken? (line : String) : Option String :=
  (words line).find? (·.toList.contains ':')

end Text

/-! ## Operands -/

namespace Console

/-- The commands that need an address only, with what they ask for. -/
def addressCommands (a : Address) : List (String × Request) :=
  [("ga", .runTo a), ("bp", .setBreakpoint ⟨a, .normal, 0, 0⟩),
   ("d", .readMemory a Builtin.defaultBytes)]

/-- A token is an address, whatever the session holds: commands that take it as their operand make
one request, at just that address. -/
structure Reaches (token : String) (a : Address) : Prop where
  reads (s : Session) (context : Operand.Context) : Operand.address s context token = .ok a
  asks {name : String} {r : Request} (h : (name, r) ∈ addressCommands a) (σ : Type) (host : Host σ)
    (x : σ) (s : Session) :
    ((execute builtinTable s (name ++ " " ++ token)).converse host x).requests = [r]

theorem execute_addressCommand {token : String} {a : Address} (hword : Text.IsWord token)
    (h : ∀ s context, Operand.address s context token = .ok a) (s : Session) {name : String}
    {r : Request} (hname : (name, r) ∈ addressCommands a) :
    execute builtinTable s (name ++ " " ++ token) = Order.single s r := by
  simp only [addressCommands, List.mem_cons, Prod.mk.injEq, List.not_mem_nil, or_false] at hname
  rcases hname with ⟨rfl, rfl⟩ | ⟨rfl, rfl⟩ | ⟨rfl, rfl⟩
  · exact execute_runTo hword (h s .code)
  · exact execute_setBreakpoint hword (h s .code)
  · exact execute_readMemory hword (h s .data)

theorem reaches_of_address {token : String} {a : Address} (hword : Text.IsWord token)
    (h : ∀ s context, Operand.address s context token = .ok a) : Reaches token a where
  reads := h
  asks hname σ host x s := by
    rw [execute_addressCommand hword h s hname, requests_single]

theorem reaches_text (a : Address) : Reaches a.text a :=
  reaches_of_address a.isWord_text fun _ context => Operand.address_text _ context a

/-- Digits of any number, in either case, are the address of the two numbers, if both fit. -/
theorem reaches_digits {before after : String} {n m : Nat}
    (hbefore : Text.digits? 16 before.toList = some n)
    (hafter : Text.digits? 16 after.toList = some m) (hn : n < 2 ^ 16) (hm : m < 2 ^ 32) :
    Reaches (before ++ ":" ++ after) ⟨.ofNat n, .ofNat m⟩ := by
  have hcolon : Text.IsWord ":" := by decide
  refine reaches_of_address ?_ fun s context => ?_
  · exact ((Text.isWord_of_digits? hbefore).append hcolon).append (Text.isWord_of_digits? hafter)
  · rw [Operand.address_numeric context hbefore hafter hm, if_pos hn]

theorem text_fixed {n m : Nat} (hn : n < 2 ^ 16) (hm : m < 2 ^ 32) :
    ∃ segment offset, (Address.mk (.ofNat n) (.ofNat m)).text = segment ++ ":" ++ offset ∧
      Text.FixedHex 4 n segment ∧ Text.FixedHex 8 m offset := by
  refine ⟨Text.hex 4 n, Text.hex 8 m, ?_, Text.hex_fixed (by decide) hn,
    Text.hex_fixed (by decide) hm⟩
  rw [Address.text, UInt16.toNat_ofNat_of_lt' hn, UInt32.toNat_ofNat_of_lt' hm]

end Console

/-! ## Lines -/

theorem Text.addressToken?_append (s t : String) :
    addressToken? (s ++ " " ++ t) = (addressToken? s).or (addressToken? t) := by
  rw [addressToken?, words_append_space, List.find?_append]
  rfl

theorem Text.addressToken?_text (a : Address) : addressToken? a.text = some a.text := by
  have hcolon : ':' ∈ a.text.toList := by simp [Address.text]
  rw [addressToken?, a.isWord_text.words_eq]
  simp [hcolon]

/-- An address behind some words in which there is no other one. -/
theorem Text.addressToken?_behind (words : String) {front : String} (hfront : front = words ++ " ")
    (hnone : addressToken? words = none) (a : Address) :
    addressToken? (front ++ a.text) = some a.text := by
  rw [hfront, addressToken?_append, hnone, Option.none_or, addressToken?_text]

theorem Listing.colon_not_mem {r : Registers} {line word : String} (hline : line ∈ registers r)
    (hword : word ∈ Text.words line) : ':' ∉ word.toList := by
  have hmem : word ∈ fields r blockRegisters ++ letters r := by
    rw [← words_registers]
    exact List.mem_flatMap.mpr ⟨line, hline, hword⟩
  simp only [fields, letters, List.mem_append, List.mem_flatMap, List.mem_map, List.mem_cons,
    List.not_mem_nil, or_false] at hmem
  obtain ⟨register, -, rfl | rfl⟩ | ⟨f, -, rfl⟩ := hmem
  · cases register <;> decide
  · rw [Registers.digits, Text.hex, String.toList_ofList]
    exact fun h => Text.forall_mem_hexDigits (P := (· ≠ ':')) (by decide) _ _ _ h rfl
  · cases f <;> decide

/-- The address on an ordinary line of output. -/
def Output.addressToken? : Output → Option String
  | .line ⟨.info, text⟩ => Text.addressToken? text
  | _ => none

/-- The addresses that the answer to a request tells, or that the machine was sent to. -/
def Exchange.addresses : Exchange → List Address
  | ⟨.searchMemory _ _ _ _, .ok found⟩ => found
  | ⟨.disassemble _ _, .ok items⟩ => items.map (·.address)
  | ⟨.runTo a, .ok _⟩ => [a]
  | _ => []

theorem Exchange.addresses_error (r : Request) (e : HostFailure) :
    addresses ⟨r, .error e⟩ = [] := by
  cases r <;> rfl

/-! ## Dialogues -/

/-- What a dialogue prints are the addresses that were told before it and in it, in order. -/
def Dialogue.Tells (σ : Type) (before : List Address) (d : Dialogue Outcome) : Prop :=
  ∀ (host : Host σ) (x : σ), let c := d.converse host x
    c.value.output.filterMap Output.addressToken? =
      (before ++ c.exchanges.flatMap Exchange.addresses).map Address.text

theorem Dialogue.tells_done {before : List Address} {o : Outcome}
    (h : o.output.filterMap Output.addressToken? = before.map Address.text) :
    (Dialogue.done o).Tells σ before := by
  intro host x
  simpa using h

/-- A failure is reported without an address, so nothing may have been told before it. -/
theorem Dialogue.tells_orFail {s : Session} {r : Request} {next : r.Reply → Dialogue Outcome}
    (h : ∀ reply, (next reply).Tells σ (Exchange.addresses ⟨r, .ok reply⟩)) :
    (Dialogue.orFail s r next).Tells σ [] := by
  intro host x
  rcases hhost : host r x with ⟨e | reply, x'⟩
  · rw [converse_orFail_error hhost]
    simp [Outcome.failed, Output.error, Output.addressToken?, Exchange.addresses_error]
  · rw [converse_orFail_ok hhost]
    simpa using h reply host x'

namespace Order

variable {s : Session}

theorem single_tells {r : Request}
    (h : ∀ reply, (r.answerLines reply).filterMap Text.addressToken? =
      (Exchange.addresses ⟨r, .ok reply⟩).map Address.text) : (single s r).Tells σ [] := by
  refine Dialogue.tells_orFail fun reply => Dialogue.tells_done ?_
  rw [← h reply, Outcome.answered, List.filterMap_map]
  rfl

theorem disassemble_tells (a : Address) (n : Int32) :
    (single s (.disassemble a n)).Tells σ [] := by
  refine single_tells fun (items : List AssemblyLine) => ?_
  simp [Request.answerLines, Listing.disassembly, Exchange.addresses, List.filterMap_map,
    Function.comp_def, Text.addressToken?_append, Text.addressToken?_text]

theorem searchMemory_tells (a : Address) (n : Int32) (pattern : List UInt8) (advance : Int32) :
    (single s (.searchMemory a n pattern advance)).Tells σ [] := by
  refine single_tells fun (found : List Address) => ?_
  cases found with
  | nil =>
    have hnone : Text.addressToken? "Not found" = none := by decide +kernel
    simp [Request.answerLines, Exchange.addresses, hnone]
  | cons first rest =>
    simp [Request.answerLines, Exchange.addresses, List.filterMap_map, Text.addressToken?_text]

theorem stepIn_tells : (single s .stepIn).Tells σ [] := by
  refine single_tells fun (r : Registers) => ?_
  show (Listing.registers r).filterMap Text.addressToken? = []
  rw [List.filterMap_eq_nil_iff]
  intro line hline
  rw [Text.addressToken?, List.find?_eq_none]
  intro word hword
  simpa using Listing.colon_not_mem hline hword

theorem stepOverFrom_tells (r : Registers) (slots : List Descriptor) :
    (stepOverFrom s r slots).Tells σ [] := by
  refine Dialogue.tells_orFail fun code => ?_
  show Dialogue.Tells σ [] _
  split
  case h_1 target _ =>
    refine Dialogue.tells_orFail fun _ => Dialogue.tells_done ?_
    have htoken : Text.addressToken? ("Running to " ++ target.text) = some target.text :=
      Text.addressToken?_behind "Running to" rfl (by decide +kernel) target
    simp [Output.info, Output.addressToken?, Exchange.addresses, htoken]
  case h_2 => exact stepIn_tells

theorem stepOver_tells : (stepOver.dialogue s).Tells σ [] := by
  refine Dialogue.tells_orFail fun r => ?_
  show Dialogue.Tells σ [] _
  split
  · exact Dialogue.tells_orFail (stepOverFrom_tells r)
  · exact Dialogue.tells_orFail (stepOverFrom_tells r)

theorem disassembleHere_tells : (disassembleHere.dialogue s).Tells σ [] := by
  cases hsynced : s.synced with
  | true =>
    rw [dialogue_disassembleHere hsynced]
    exact disassemble_tells _ _
  | false =>
    rw [dialogue_disassembleHere_first hsynced]
    exact Dialogue.tells_orFail fun r => disassemble_tells _ _

/-- The commands that print addresses and nothing else with a colon. -/
def addressTellers : List String :=
  ["SearchMemory", "Disassemble", "StepOver"]

theorem tells_of_read {help words : List String} {name : String} {o : Order}
    (hname : name ∈ addressTellers) (h : read help s words name = .ok o) :
    (o.dialogue s).Tells σ [] := by
  simp only [addressTellers, List.mem_cons, List.not_mem_nil, or_false] at hname
  rcases hname with rfl | rfl | rfl
  · simp only [read] at h
    obtain ⟨_, -, h⟩ := bind_ok h
    obtain ⟨_, -, h⟩ := bind_ok h
    obtain ⟨_, -, h⟩ := bind_ok h
    cases h
    exact searchMemory_tells _ _ _ _
  · simp only [read] at h
    split at h
    · cases h
      exact disassembleHere_tells
    · obtain ⟨_, -, h⟩ := bind_ok h
      obtain ⟨_, -, h⟩ := bind_ok h
      cases h
      exact disassemble_tells _ _
  · cases h
    exact stepOver_tells

end Order

/-! ## Steps -/

namespace Console

/-- The steps that print addresses and nothing else with a colon. -/
def Step.ShowsAddresses : Step σ → Prop
  | .line text => calledName text ∈ Order.addressTellers
  | .stopped _ => True
  | .change _ => False

/-- The addresses that a step is told: those in the answers of the host, or where it stopped. -/
def Stepped.addresses (t : Stepped σ) : List Address :=
  match t.step with
  | .stopped r => [r.ip]
  | .line _ | .change _ => t.exchanges.flatMap Exchange.addresses

theorem execute_tells (s : Session) {line : String} (h : calledName line ∈ Order.addressTellers) :
    (execute builtinTable s line).Tells σ [] := by
  rw [execute_eq]
  cases hread : reading s line with
  | nothing => exact Dialogue.tells_done rfl
  | unknown name => exact Dialogue.tells_done rfl
  | refused e => exact Dialogue.tells_done rfl
  | order o =>
    obtain ⟨command, words, hcommand, hread⟩ := read_of_reading hread
    have hname : calledName line = Builtin.firstName command := by simp [calledName, hcommand]
    exact Order.tells_of_read (hname ▸ h) hread

theorem take_addresses (host : Host σ) (x : σ) (s : Session) {step : Step σ}
    (h : step.ShowsAddresses) :
    let t := take builtinTable host s x step
    t.output.filterMap Output.addressToken? = t.addresses.map Address.text := by
  cases step with
  | line text => exact execute_tells s h host x
  | stopped r =>
    have htoken : Text.addressToken? ("-> Stopped at " ++ r.ip.text) = some r.ip.text :=
      Text.addressToken?_behind "-> Stopped at" rfl (by decide +kernel) r.ip
    simp [take, stopped, Output.info, Output.addressToken?, Stepped.addresses, htoken]
  | change f => exact absurd h id

/-- A printed address is that address, in every session and context, and the commands that take it
as their operand ask for just that address. So is what the steps show that print addresses: as many
as they are told of, in the same order. Two numbers of any spelling whose values fit are an address
too, and it is printed with four digits and eight, all upper case. -/
theorem printed_addresses_reread :
    (∀ a : Address, Reaches a.text a) ∧
    (∀ (σ : Type) (host : Host σ) (x : σ) (s : Session) (step : Step σ), step.ShowsAddresses →
      let t := take builtinTable host s x step
      List.Forall₂ Reaches (t.output.filterMap Output.addressToken?) t.addresses) ∧
    ∀ (before after : String) (n m : Nat), Text.digits? 16 before.toList = some n →
      Text.digits? 16 after.toList = some m → n < 2 ^ 16 → m < 2 ^ 32 →
      ∃ a, Reaches (before ++ ":" ++ after) a ∧ ∃ segment offset,
        a.text = segment ++ ":" ++ offset ∧ Text.FixedHex 4 n segment ∧
          Text.FixedHex 8 m offset := by
  refine ⟨reaches_text, fun σ host x s step hstep => ?_,
    fun before after n m hbefore hafter hn hm => ?_⟩
  · intro t
    rw [show t.output.filterMap Output.addressToken? = _ from take_addresses host x s hstep,
      List.forall₂_map_left_iff, List.forall₂_same]
    exact fun a _ => reaches_text a
  · exact ⟨_, reaches_digits hbefore hafter hn hm, text_fixed hn hm⟩

/-- A hit of a search, and an address in another spelling. -/
theorem printed_addresses_reread_hit :
    let a : Address := ⟨0xF000, 0xFFFFFFF0⟩
    let line : Step ScriptedHost := .line "s 0:0 -1 090"
    let s : Session := { resolve := fun _ => some 7, codeSize := .bits16 }
    let t := take builtinTable ScriptedHost.answer s { found := [a] } line
    line.ShowsAddresses ∧ t.addresses = [a] ∧
      t.output.filterMap Output.addressToken? = ["F000:FFFFFFF0"] ∧ Reaches "F000:FFFFFFF0" a ∧
      Text.digits? 16 "00f000".toList = some 0xF000 ∧
      Text.digits? 16 "0fFfFffF0".toList = some 0xFFFFFFF0 ∧
      ∃ b, Reaches "00f000:0fFfFffF0" b := by
  intro a line s t
  obtain ⟨-, hsteps, hdigits⟩ := printed_addresses_reread
  have hline : line.ShowsAddresses := by
    show calledName "s 0:0 -1 090" ∈ _
    decide +kernel
  have haddresses : t.addresses = [a] := by decide +kernel
  have htokens : t.output.filterMap Output.addressToken? = ["F000:FFFFFFF0"] := by decide +kernel
  have hreach : List.Forall₂ Reaches (t.output.filterMap Output.addressToken?) t.addresses :=
    hsteps ScriptedHost ScriptedHost.answer { found := [a] } s line hline
  rw [htokens, haddresses, List.forall₂_cons] at hreach
  have hbefore : Text.digits? 16 "00f000".toList = some 0xF000 := by decide +kernel
  have hafter : Text.digits? 16 "0fFfFffF0".toList = some 0xFFFFFFF0 := by decide +kernel
  obtain ⟨b, hb, -⟩ := hdigits "00f000" "0fFfFffF0" _ _ hbefore hafter (by decide) (by decide)
  exact ⟨hline, haddresses, htokens, hreach.1, hbefore, hafter, b, hb⟩

end Console

end DebugConsole
