import DebugConsole.Proofs.Command.ActionLemmas

/-!
# The built-in commands, reading apart from asking

Every command reads all of its operands before it talks to the host. So a command is a reading
(`Order.read`), which needs the session and the words only, followed by an `Order`, which is what
is left to do and can no longer be refused for its operands (`Order.dialogue`).

- **Orders** say all that a command can do: `Order.dialogue` is the whole conversation.
- **The commands** (`follows_readMemory`, ...): each handler of `Builtin.commands` is its reading,
  then its order; `follows_of_mem` collects them.
- **The line** (`execute_eq`): what `Console.execute` does with a line of the built-in table.
-/

namespace DebugConsole

open DebugConsole.Action

variable {α β : Type}

/-! ## Orders -/

/-- A request in a command: a refused one ends the command with its report. -/
def Dialogue.orFail (s : Session) (r : Request) (next : r.Reply → Dialogue Outcome) :
    Dialogue Outcome :=
  .ask r fun
    | .ok reply => next reply
    | .error e => .done (.failed s (.host e))

/-- The lines that show the answer to a request. -/
def Request.answerLines : (r : Request) → r.Reply → List String
  | .pause, v | .stepIn, v | .stepMultiple _, v | .getState, v => Listing.registers v
  | .disassemble _ _, items => Listing.disassembly items
  | .readMemory a _, bytes => Listing.memory a bytes
  | .searchMemory _ _ _ _, found =>
    if found.isEmpty then ["Not found"] else found.map Address.text
  | .listBreakpoints, items => Listing.breakpoints items
  | .globalTable, slots => Listing.descriptors .globalTable slots
  | .localTable, slots => Listing.descriptors .localTable slots
  | .connect, _ | .resume, _ | .runTo _, _ | .writeMemory _ _, _ | .setBreakpoint _, _
  | .deleteBreakpoint _, _ | .setRegister _ _, _ => []

/-- The session once an answer is shown: a register snapshot becomes the current one. -/
def Session.learn (s : Session) : (r : Request) → r.Reply → Session
  | .pause, v | .stepIn, v | .stepMultiple _, v | .getState, v => s.update v
  | .disassemble _ _, _ | .readMemory _ _, _ | .searchMemory _ _ _ _, _ | .listBreakpoints, _
  | .globalTable, _ | .localTable, _ | .connect, _ | .resume, _ | .runTo _, _
  | .writeMemory _ _, _ | .setBreakpoint _, _ | .deleteBreakpoint _, _ | .setRegister _ _, _ => s

/-- What a command leads to that shows the answer to a request. -/
def Outcome.answered (s : Session) (r : Request) (reply : r.Reply) : Outcome :=
  ⟨.continue, s.learn r reply, (r.answerLines reply).map .info⟩

/-- What is left to do once the operands of a command are read. -/
inductive Order where
  /-- Writes without asking the host. -/
  | write (output : List Output)
  | leave
  /-- Makes one request and shows the answer. -/
  | request (r : Request)
  /-- Disassembles from the next instruction on; the first use fetches its address. -/
  | disassembleHere
  | stepOver

namespace Order

/-- The conversation of an order that makes one request. -/
def single (s : Session) (r : Request) : Dialogue Outcome :=
  .orFail s r fun reply => .done (.answered s r reply)

/-- The rest of stepping over at a snapshot, once the descriptor table is known. -/
def stepOverFrom (s : Session) (r : Registers) (slots : List Descriptor) : Dialogue Outcome :=
  .orFail s (.readMemory r.ip (Int32.ofNat Instruction.maxLength)) fun code =>
    match stepOverTarget (CodeSize.ofSelector slots r.cs s.codeSize) r.ip code with
    | some target =>
      .orFail s (.runTo target) fun _ => .done ⟨.continue, s, [.info ("Running to " ++ target.text)]⟩
    | none => single s .stepIn

/-- The whole conversation of an order. -/
def dialogue (s : Session) : Order → Dialogue Outcome
  | .write output => .done ⟨.continue, s, output⟩
  | .leave => .done ⟨.exit, s, []⟩
  | .request r => single s r
  | .disassembleHere =>
    if s.synced then single s (.disassemble s.current.ip Builtin.defaultInstructions)
    else .orFail s .getState fun r =>
      single (s.update r) (.disassemble r.ip Builtin.defaultInstructions)
  | .stepOver =>
    .orFail s .getState fun r =>
      if selectsLocal r.cs then .orFail s .localTable (stepOverFrom s r)
      else .orFail s .globalTable (stepOverFrom s r)

theorem dialogue_disassembleHere {s : Session} (h : s.synced = true) :
    disassembleHere.dialogue s =
      single s (.disassemble s.current.ip Builtin.defaultInstructions) :=
  if_pos h

theorem dialogue_disassembleHere_first {s : Session} (h : s.synced = false) :
    disassembleHere.dialogue s = .orFail s .getState fun r =>
      single (s.update r) (.disassemble r.ip Builtin.defaultInstructions) :=
  if_neg (by simp [h])

/-- The `n`-th word behind a command name, counted from zero; an empty one if it is omitted. -/
def word (words : List String) (n : Nat) : String :=
  (words.drop n).headD ""

/-- The order that a command gives, from the first of its names, with the words behind it. -/
def read (help : List String) (s : Session) (words : List String) :
    String → Except OperandError Order
  | "help" => .ok (.write (help.map .info))
  | "clear" => .ok (.write [.clear])
  | "exit" => .ok .leave
  | "Connect" => .ok (.request .connect)
  | "Continue" => .ok (.request .resume)
  | "Break" => .ok (.request .pause)
  | "StepOver" => .ok .stepOver
  | "StepIn" => .ok (.request .stepIn)
  | "StepMultiple" => do
    let count ← Operand.count (word words 0)
    return .request (.stepMultiple count)
  | "RunToAddress" => do
    let address ← Operand.address s .code (word words 0)
    return .request (.runTo address)
  | "GetState" => .ok (.request .getState)
  | "Disassemble" =>
    if words.isEmpty then .ok .disassembleHere
    else do
      let address ← Operand.address s .code (word words 0)
      let count ← Operand.orDefault Builtin.defaultInstructions Operand.count (word words 1)
      return .request (.disassemble address count)
  | "GetMemory" => do
    let address ← Operand.address s .data (word words 0)
    let length ← Operand.orDefault Builtin.defaultBytes Operand.count (word words 1)
    return .request (.readMemory address length)
  | "SetMemory" => do
    let address ← Operand.address s .data (word words 0)
    let bytes ← Operand.bytes (words.drop 1)
    return .request (.writeMemory address bytes)
  | "SearchMemory" => do
    let start ← Operand.address s .data (word words 0)
    let length ← Operand.searchLength (word words 1)
    let pattern ← Operand.bytes (words.drop 2)
    return .request (.searchMemory start length pattern 0)
  | "ListBreakpoints" => .ok (.request .listBreakpoints)
  | "SetBreakpoint" => do
    let address ← Operand.address s .code (word words 0)
    let kind ← Operand.orDefault .normal Operand.breakpointKind (word words 1)
    let ah ← Operand.orDefault 0 Operand.byte (word words 2)
    let al ← Operand.orDefault 0 Operand.byte (word words 3)
    return .request (.setBreakpoint ⟨address, kind, ah, al⟩)
  | "DelBreakpoint" => do
    let address ← Operand.address s .code (word words 0)
    return .request (.deleteBreakpoint address)
  | "SetReg" => do
    let register ← Operand.register (word words 0)
    let value ← Operand.integer (word words 1)
    return .request (.setRegister register value)
  | "Gdt" => .ok (.request .globalTable)
  | "Ldt" => .ok (.request .localTable)
  | _ => .ok (.write [])

end Order

theorem bind_ok {ε : Type} {x : Except ε α} {f : α → Except ε β} {b : β} (h : x >>= f = .ok b) :
    ∃ a, x = .ok a ∧ f a = .ok b := by
  cases x with
  | ok a => exact ⟨a, rfl, h⟩
  | error e => cases h

theorem bind_eq_ok_iff {ε : Type} {x : Except ε α} {f : α → Except ε β} {b : β} :
    x >>= f = .ok b ↔ ∃ a, x = .ok a ∧ f a = .ok b := by
  refine ⟨bind_ok, ?_⟩
  rintro ⟨a, rfl, h⟩
  exact h

theorem bind_eq_error_iff {ε : Type} {x : Except ε α} {f : α → Except ε β} {e : ε} :
    x >>= f = .error e ↔ x = .error e ∨ ∃ a, x = .ok a ∧ f a = .error e := by
  cases x with
  | error e' => simp [bind, Except.bind]
  | ok a => simp [bind, Except.bind]

/-- The orders that a command can give, by its first name. Only a command of its own asks for the
state alone. -/
inductive Order.Of (help words : List String) : String → Order → Prop where
  | help : Of help words "help" (.write (help.map .info))
  | clear : Of help words "clear" (.write [.clear])
  | leave : Of help words "exit" .leave
  | stepOver : Of help words "StepOver" .stepOver
  | disassembleHere (h : words = []) : Of help words "Disassemble" .disassembleHere
  | getState : Of help words "GetState" (.request .getState)
  | request {name : String} {r : Request} (h : r ≠ .getState) : Of help words name (.request r)
  | nothing {name : String} : Of help words name (.write [])

theorem Order.of_read {help words : List String} {s : Session} {name : String} {o : Order}
    (h : read help s words name = .ok o) : Of help words name o := by
  unfold read at h
  split at h
  case h_12 =>
    split at h
    · rename_i hempty
      cases h
      exact .disassembleHere (List.isEmpty_iff.mp hempty)
    · obtain ⟨_, -, h⟩ := bind_ok h
      obtain ⟨_, -, h⟩ := bind_ok h
      cases h
      exact .request (by simp)
  all_goals
    repeat obtain ⟨_, -, h⟩ := bind_ok h
    cases h
    first
    | constructor; done
    | exact .request (by simp)

/-- A dialogue that makes a request, and reports its failure. -/
theorem Dialogue.eq_orFail {s : Session} {r : Request} {d : Dialogue Outcome}
    {next : Except HostFailure r.Reply → Dialogue Outcome} {f : r.Reply → Dialogue Outcome}
    (h : d = .ask r next) (hok : ∀ reply, next (.ok reply) = f reply)
    (herror : ∀ e, next (.error e) = .done (.failed s (.host e))) : d = .orFail s r f := by
  subst h
  refine Dialogue.ask_congr fun reply => ?_
  cases reply with
  | ok reply => exact hok reply
  | error e => exact herror e

/-- The same for a dialogue that shows the answer at once. -/
theorem Order.eq_single {s : Session} {r : Request} {d : Dialogue Outcome}
    {next : Except HostFailure r.Reply → Dialogue Outcome} (h : d = .ask r next)
    (hok : ∀ reply, next (.ok reply) = .done (.answered s r reply))
    (herror : ∀ e, next (.error e) = .done (.failed s (.host e))) : d = Order.single s r :=
  Dialogue.eq_orFail h hok herror

/-! ## The commands -/

namespace Builtin

-- Every command below unfolds its reading.
attribute [local simp] Order.read

/-- The command with that first name reads its operands, then carries out the order they give. -/
def Follows (command : Action Unit) (name : String) : Prop :=
  ∀ help s words, "" ∉ words → command.dialogue (.start help s words) =
    whenRead s (Order.read help s words name) (Order.dialogue s)

theorem follows_help : Follows help "help" := fun lines s words _ =>
  (dialogue_bind_of_run rfl).trans (dialogue_print lines s words lines)

theorem follows_clear : Follows clear "clear" := fun _ _ _ _ => rfl

theorem follows_leave : Follows leave "exit" := fun _ _ _ _ => rfl

theorem follows_connect : Follows connect "Connect" := fun _ _ _ _ =>
  Order.eq_single rfl (fun _ => rfl) fun _ => rfl

theorem follows_resume : Follows resume "Continue" := fun _ _ _ _ =>
  Order.eq_single rfl (fun _ => rfl) fun _ => rfl

theorem follows_pause : Follows pause "Break" := fun help s words _ =>
  Order.eq_single rfl (dialogue_showRegisters help s words) fun _ => rfl

theorem follows_stepIn : Follows stepIn "StepIn" := fun help s words _ =>
  Order.eq_single rfl (dialogue_showRegisters help s words) fun _ => rfl

theorem follows_state : Follows state "GetState" := fun help s words _ =>
  Order.eq_single rfl (dialogue_showRegisters help s words) fun _ => rfl

theorem follows_stepMultiple : Follows stepMultiple "StepMultiple" := by
  intro help s words _
  rw [stepMultiple, Order.read, dialogue_nextArgument_bind, dialogue_parsed_bind, whenRead_bind]
  exact whenRead_congr fun n _ =>
    Order.eq_single rfl (dialogue_showRegisters help s _) fun _ => rfl

theorem follows_runTo : Follows runTo "RunToAddress" := by
  intro help s words _
  rw [runTo, Order.read, dialogue_nextAddress_bind, whenRead_bind]
  exact whenRead_congr fun a _ => Order.eq_single rfl (fun _ => rfl) fun _ => rfl

theorem follows_deleteBreakpoint : Follows deleteBreakpoint "DelBreakpoint" := by
  intro help s words _
  rw [deleteBreakpoint, Order.read, dialogue_nextAddress_bind, whenRead_bind]
  exact whenRead_congr fun a _ => Order.eq_single rfl (fun _ => rfl) fun _ => rfl

theorem follows_readMemory : Follows readMemory "GetMemory" := by
  intro help s words _
  simp only [readMemory, Order.read, dialogue_nextAddress_bind, dialogue_optional_bind,
    whenRead_bind]
  exact whenRead_congr fun a _ => whenRead_congr fun n _ =>
    Order.eq_single rfl (fun bytes => dialogue_print help s _ (Listing.memory a bytes)) fun _ => rfl

theorem follows_writeMemory : Follows writeMemory "SetMemory" := by
  intro help s words _
  simp only [writeMemory, Order.read, dialogue_nextAddress_bind, dialogue_restArguments_bind,
    dialogue_parsed_bind, whenRead_bind]
  exact whenRead_congr fun a _ => whenRead_congr fun bytes _ =>
    Order.eq_single rfl (fun _ => rfl) fun _ => rfl

theorem follows_searchMemory : Follows searchMemory "SearchMemory" := by
  intro help s words _
  simp only [searchMemory, Order.read, dialogue_nextAddress_bind, dialogue_nextArgument_bind,
    dialogue_restArguments_bind, dialogue_parsed_bind, whenRead_bind, List.drop_drop]
  exact whenRead_congr fun a _ => whenRead_congr fun n _ => whenRead_congr fun pattern _ =>
    Order.eq_single rfl (fun found => dialogue_print help s _ _) fun _ => rfl

theorem follows_setBreakpoint : Follows setBreakpoint "SetBreakpoint" := by
  intro help s words _
  simp only [setBreakpoint, Order.read, dialogue_nextAddress_bind, dialogue_optional_bind,
    whenRead_bind, List.drop_drop]
  exact whenRead_congr fun a _ => whenRead_congr fun kind _ => whenRead_congr fun ah _ =>
    whenRead_congr fun al _ => Order.eq_single rfl (fun _ => rfl) fun _ => rfl

theorem follows_setRegister : Follows setRegister "SetReg" := by
  intro help s words _
  simp only [setRegister, Order.read, dialogue_nextArgument_bind, dialogue_parsed_bind,
    whenRead_bind]
  exact whenRead_congr fun register _ => whenRead_congr fun value _ =>
    Order.eq_single rfl (fun _ => rfl) fun _ => rfl

theorem follows_listBreakpoints : Follows listBreakpoints "ListBreakpoints" :=
  fun help s words _ => Order.eq_single rfl (fun _ => dialogue_print help s words _) fun _ => rfl

theorem follows_globalTable : Follows globalTable "Gdt" := fun help s words _ =>
  Order.eq_single rfl (fun _ => dialogue_print help s words _) fun _ => rfl

theorem follows_localTable : Follows localTable "Ldt" := fun help s words _ =>
  Order.eq_single rfl (fun _ => dialogue_print help s words _) fun _ => rfl

theorem dialogue_defaultListing (help : List String) (s : Session) (a : Address) :
    (do
      let count ← optional defaultInstructions Operand.count
      print (Listing.disassembly (← ask (.disassemble a count)))).dialogue (.start help s []) =
        Order.single s (.disassemble a defaultInstructions) := by
  rw [dialogue_optional_bind]
  exact Order.eq_single rfl (fun items => dialogue_print help s _ _) fun _ => rfl

/-- Without operands, the address is the current one, which the first use fetches. -/
theorem dialogue_disassemble_nil (help : List String) (s : Session) :
    disassemble.dialogue (.start help s []) = Order.disassembleHere.dialogue s := by
  have hempty : "".isEmpty = true := rfl
  simp only [disassemble, dialogue_nextArgument_bind, currentIp, bind_assoc, List.headD_nil, hempty,
    if_true, dialogue_session_bind]
  cases hs : s.synced with
  | true =>
    rw [Order.dialogue_disassembleHere hs]
    exact dialogue_defaultListing help s s.current.ip
  | false =>
    rw [Order.dialogue_disassembleHere_first hs]
    exact Dialogue.eq_orFail rfl (fun r => dialogue_defaultListing help (s.update r) r.ip) fun _ => rfl

theorem follows_disassemble : Follows disassemble "Disassemble" := by
  intro help s words hw
  cases words with
  | nil => exact dialogue_disassemble_nil help s
  | cons w rest =>
    -- No word is empty, so a first word is always read as an address.
    have hword : w.isEmpty = false := by
      simp only [List.mem_cons, not_or] at hw
      simpa using Ne.symm hw.1
    simp only [disassemble, Order.read, dialogue_nextArgument_bind, dialogue_session_bind,
      dialogue_parsed_bind, dialogue_optional_bind, whenRead_bind, List.headD_cons, hword,
      List.isEmpty_cons, Bool.false_eq_true, if_false]
    exact whenRead_congr fun a _ => whenRead_congr fun n _ =>
      Order.eq_single rfl (fun items => dialogue_print help s _ _) fun _ => rfl

/-- Stepping over ends with a run to the target, or with a single step if there is none. -/
theorem dialogue_target (help : List String) (s : Session) (words : List String)
    (target? : Option Address) :
    Action.dialogue (match target? with
      | some target => do
        ask (.runTo target)
        print ["Running to " ++ target.text]
      | none => stepIn) (.start help s words) =
    match target? with
    | some target =>
      .orFail s (.runTo target) fun _ => .done ⟨.continue, s, [.info ("Running to " ++ target.text)]⟩
    | none => Order.single s .stepIn := by
  cases target? with
  | none => exact Order.eq_single rfl (dialogue_showRegisters help s words) fun _ => rfl
  | some target => exact Dialogue.eq_orFail rfl (fun _ => dialogue_print help s words _) fun _ => rfl

theorem follows_stepOver : Follows stepOver "StepOver" := by
  intro help s words _
  have hrest (r : Registers) (slots : List Descriptor) : (do
      match ← query (Query.stepOverTarget r.ip (CodeSize.ofSelector slots r.cs s.codeSize)) with
      | some target =>
        ask (.runTo target)
        print ["Running to " ++ target.text]
      | none => stepIn).dialogue (.start help s words) = Order.stepOverFrom s r slots := by
    rw [dialogue_query_bind]
    exact Dialogue.eq_orFail rfl (fun code => dialogue_target help s words _) fun _ => rfl
  refine Dialogue.eq_orFail rfl (fun r => ?_) fun _ => rfl
  show (query (Query.codeSize r.cs s.codeSize) >>= _).dialogue _ = _
  rw [dialogue_query_bind]
  cases h : selectsLocal r.cs with
  | true =>
    simp only [Query.codeSize, Query.table, h, if_true]
    exact Dialogue.eq_orFail rfl (hrest r) fun _ => rfl
  | false =>
    simp only [Query.codeSize, Query.table, h]
    exact Dialogue.eq_orFail rfl (hrest r) fun _ => rfl

/-- The first of a command's names. -/
def firstName (command : Command (Action Unit)) : String :=
  command.names.headD ""

theorem follows_of_mem {command : Command (Action Unit)} (h : command ∈ commands) :
    Follows command.handler (firstName command) := by
  revert command
  simp only [commands, List.forall_mem_cons]
  exact ⟨follows_help, follows_clear, follows_leave, follows_connect, follows_resume,
    follows_pause, follows_stepOver, follows_stepIn, follows_stepMultiple, follows_runTo,
    follows_state, follows_disassemble, follows_readMemory, follows_writeMemory,
    follows_searchMemory, follows_listBreakpoints, follows_setBreakpoint, follows_deleteBreakpoint,
    follows_setRegister, follows_globalTable, follows_localTable, by simp⟩

end Builtin

/-! ## The line -/

theorem Text.empty_not_mem_words (line : String) : "" ∉ Text.words line := by
  intro h
  simp only [Text.words, Text.runs, List.mem_map, List.mem_filter] at h
  obtain ⟨run, ⟨-, hrun⟩, hempty⟩ := h
  rw [String.ofList_eq_empty_iff] at hempty
  simp [hempty] at hrun

namespace Console

/-- What a line of the built-in table asks for. -/
inductive Reading where
  | nothing
  | unknown (name : String)
  /-- An operand is refused. -/
  | refused (e : OperandError)
  | order (o : Order)

/-- The words of a line that is not blank: the name, and the words behind it. -/
def call? (line : String) : Option (String × List String) :=
  if Text.isBlankLine line then none
  else
    match Text.words line with
    | [] => none
    | name :: words => some (name, words)

/-- The command that a line calls, and the words behind its name. -/
def command? (line : String) : Option (Command (Action Unit) × List String) := do
  let (name, words) ← call? line
  let command ← builtinTable.find? name
  return (command, words)

/-- The reading of a line. -/
def reading (s : Session) (line : String) : Reading :=
  match call? line with
  | none => .nothing
  | some (name, words) =>
    match builtinTable.find? name with
    | none => .unknown name
    | some command =>
      match Order.read builtinTable.help s words (Builtin.firstName command) with
      | .ok o => .order o
      | .error e => .refused e

/-- A line that gives an order calls a command that reads it from the words behind its name. -/
theorem read_of_reading {s : Session} {line : String} {o : Order} (h : reading s line = .order o) :
    ∃ command words, command? line = some (command, words) ∧
      Order.read builtinTable.help s words (Builtin.firstName command) = .ok o := by
  unfold reading at h
  cases hcall : call? line with
  | none => simp [hcall] at h
  | some call =>
    obtain ⟨name, words⟩ := call
    simp only [hcall] at h
    cases hfind : builtinTable.find? name with
    | none => simp [hfind] at h
    | some command =>
      simp only [hfind] at h
      cases hread : Order.read builtinTable.help s words (Builtin.firstName command) with
      | error e => simp [hread] at h
      | ok o' =>
        simp only [hread, Reading.order.injEq] at h
        exact ⟨command, words, by simp [command?, hcall, hfind], h ▸ hread⟩

/-- A line that gives an order calls the command that gives it. -/
theorem of_reading {s : Session} {line : String} {o : Order} (h : reading s line = .order o) :
    ∃ command words, command? line = some (command, words) ∧
      Order.Of builtinTable.help words (Builtin.firstName command) o := by
  obtain ⟨command, words, hcommand, hread⟩ := read_of_reading h
  exact ⟨command, words, hcommand, Order.of_read hread⟩

/-- A line that calls a command is read as the command reads the words behind its name. -/
theorem reading_of_command? {s : Session} {line : String} {command : Command (Action Unit)}
    {words : List String} {o : Order} (hcommand : command? line = some (command, words))
    (hread : Order.read builtinTable.help s words (Builtin.firstName command) = .ok o) :
    reading s line = .order o := by
  simp only [command?, Option.bind_eq_bind, Option.bind_eq_some_iff, Option.pure_def,
    Option.some.injEq, Prod.mk.injEq] at hcommand
  obtain ⟨⟨name, words'⟩, hcall, command', hfind, rfl, rfl⟩ := hcommand
  simp only [reading, hcall, hfind, hread]

/-- The conversation of a line. -/
def Reading.dialogue (s : Session) : Reading → Dialogue Outcome
  | .nothing => .done ⟨.continue, s, []⟩
  | .unknown name => .done ⟨.continue, s, [.error ("Unknown command \"" ++ name ++ "\"")]⟩
  | .refused e => .done (.failed s (.operand e))
  | .order o => o.dialogue s

/-- Executing a line reads it, then carries out the order it gives. -/
theorem execute_eq (s : Session) (line : String) :
    execute builtinTable s line = (reading s line).dialogue s := by
  unfold execute reading call?
  by_cases hblank : Text.isBlankLine line = true
  · rw [if_pos hblank, if_pos hblank]
    rfl
  rw [if_neg hblank, if_neg hblank]
  have hwords := Text.empty_not_mem_words line
  cases h : Text.words line with
  | nil => rfl
  | cons name words =>
    rw [h] at hwords
    show run builtinTable s name words = _
    unfold run
    cases hfind : builtinTable.find? name with
    | none => simp only [hfind, Reading.dialogue]
    | some command =>
      have hmem : command ∈ Builtin.commands := List.mem_of_find?_eq_some hfind
      refine (Builtin.follows_of_mem hmem _ s words (List.not_mem_of_not_mem_cons hwords)).trans ?_
      simp only [hfind, whenRead]
      cases Order.read builtinTable.help s words (Builtin.firstName command) <;> rfl

end Console

end DebugConsole
