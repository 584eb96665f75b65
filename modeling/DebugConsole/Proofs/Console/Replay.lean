import DebugConsole.Host.Scripted
import DebugConsole.Proofs.Command.OperandLemmas
import DebugConsole.Proofs.Console.Snapshots
import DebugConsole.Proofs.Console.TypedLines

/-!
# Replaying a breakpoint list

The lines that list breakpoints can be turned into commands that set the same breakpoints again
(`breakpoints_replayed`).

- **Lines** (`replay?`): the four tokens of a printed line make a command line, which asks for the
  very breakpoint that was printed (`execute_setLine`).
- **Steps** (`Stepped.Sets`): one request for each line, whatever the session holds.
- **Hosts** (`Host.AddsBreakpoints`): a host that adds breakpoints at the end of its list has the
  same list in the end.
-/

namespace DebugConsole

variable {σ : Type}

/-! ## Lines -/

theorem BreakpointKind.isWord_name (kind : BreakpointKind) : Text.IsWord kind.name := by
  cases kind <;> decide

theorem Operand.orDefault_of_ne {α : Type} {default : α} {parse : String → Except OperandError α}
    {word : String} (h : word ≠ "") : orDefault default parse word = parse word := by
  unfold orDefault
  simp [h]

namespace Console

/-- The command that sets the breakpoint of a printed line again, if the line has four tokens. The
last two are hexadecimal, which a zero in front tells. -/
def replay? (printed : String) : Option String :=
  match Text.pieces printed with
  | [address, kind, ah, al] => some (" ".intercalate ["bp", address, kind, "0" ++ ah, "0" ++ al])
  | _ => none

/-- The words behind the name of the command that sets a breakpoint. -/
def setWords (b : Breakpoint) : List String :=
  [b.address.text, b.kind.name, "0" ++ Text.hex 2 b.ah.toNat, "0" ++ Text.hex 2 b.al.toNat]

/-- The command that sets a breakpoint. -/
def setLine (b : Breakpoint) : String :=
  " ".intercalate ("bp" :: setWords b)

theorem replay?_breakpoint (b : Breakpoint) :
    replay? (Listing.breakpoint b) = some (setLine b) := by
  have hpieces : Text.pieces (Listing.breakpoint b) =
      [b.address.text, b.kind.name, Text.hex 2 b.ah.toNat, Text.hex 2 b.al.toNat] := by
    refine Text.pieces_intercalate (by simp) ?_
    simp [b.address.isWord_text.no_space, b.kind.isWord_name.no_space, Text.space_not_mem_hex]
  rw [replay?, hpieces]
  rfl

theorem mapM_replay? (items : List Breakpoint) :
    (Listing.breakpoints items).mapM replay? = some (items.map setLine) := by
  induction items with
  | nil => rfl
  | cons b rest ih =>
    rw [Listing.breakpoints] at ih
    rw [Listing.breakpoints, List.map_cons, List.mapM_cons, replay?_breakpoint, ih]
    rfl

/-- The line asks for the breakpoint, bit by bit, whatever the session holds. -/
theorem execute_setLine (s : Session) {b : Breakpoint} (h : b.kind ≠ .unknown) :
    execute builtinTable s (setLine b) = Order.single s (.setBreakpoint b) := by
  have hwords : ∀ word ∈ setWords b, Text.IsWord word := by
    simp only [setWords, List.forall_mem_cons]
    exact ⟨b.address.isWord_text, b.kind.isWord_name, Text.isWord_zero_hex _,
      Text.isWord_zero_hex _, List.forall_mem_nil _⟩
  have hkind : Operand.orDefault .normal Operand.breakpointKind b.kind.name = .ok b.kind := by
    rw [Operand.orDefault_of_ne b.kind.isWord_name.ne_empty, Operand.breakpointKind_name h]
  have hbyte (n : UInt8) :
      Operand.orDefault 0 Operand.byte ("0" ++ Text.hex 2 n.toNat) = .ok n := by
    rw [Operand.orDefault_of_ne (by simp), Operand.byte_hex]
  have hread : Order.read builtinTable.help s (setWords b) "SetBreakpoint" =
      .ok (.request (.setBreakpoint b)) := by
    simp only [Order.read, Order.word, setWords, List.drop_zero, List.drop_succ_cons,
      List.headD_cons, Operand.address_text, hkind, hbyte]
    rfl
  have hreading : reading s (setLine b) = .order (.request (.setBreakpoint b)) :=
    reading_intercalate (by decide) hwords (by decide +kernel) hread
  rw [execute_eq, hreading]
  rfl

/-! ## Steps -/

/-- The step has asked for the breakpoint to be set, and for nothing else. It leaves the session
alone, and prints nothing unless the host refuses. -/
structure Stepped.Sets (s : Session) (b : Breakpoint) (t : Stepped σ) : Prop where
  session : t.session = s
  proceed : t.proceed = .continue
  asked : (t.exchanges = [⟨.setBreakpoint b, .ok ()⟩] ∧ t.output = []) ∨
    ∃ e, t.exchanges = [⟨.setBreakpoint b, .error e⟩] ∧
      t.output = [.error ("Host error: " ++ e.message)]

variable {host : Host σ} {x x' : σ} {s : Session} {b : Breakpoint}

theorem take_setLine_ok (h : b.kind ≠ .unknown) (hset : host (.setBreakpoint b) x = (.ok (), x')) :
    take builtinTable host s x (.line (setLine b)) =
      ⟨.line (setLine b), s, .continue, [⟨.setBreakpoint b, .ok ()⟩], [], s, x'⟩ := by
  rw [take_single_ok (execute_setLine s h) hset]
  rfl

theorem take_setLine_sets (host : Host σ) (x : σ) (s : Session) (h : b.kind ≠ .unknown) :
    (take builtinTable host s x (.line (setLine b))).Sets s b := by
  rcases hset : host (.setBreakpoint b) x with ⟨e | reply, x'⟩
  · rw [take_single_error (execute_setLine s h) hset]
    exact ⟨rfl, rfl, .inr ⟨e, rfl, rfl⟩⟩
  · rw [take_setLine_ok h hset]
    exact ⟨rfl, rfl, .inl ⟨rfl, rfl⟩⟩

theorem history_setLines (host : Host σ) (x : σ) (s : Session) {items : List Breakpoint}
    (hkinds : ∀ b ∈ items, b.kind ≠ .unknown) :
    List.Forall₂ (Stepped.Sets s) items
      (history builtinTable host s x (items.map fun b => .line (setLine b))) := by
  refine history_forall₂ (fun b hb x => ?_) x
  have hsets := take_setLine_sets host x s (hkinds b hb)
  exact ⟨hsets, hsets.session⟩

end Console

/-! ## Hosts -/

/-- A host with a list of breakpoints, where one at a new address comes behind the others. A host that
updates its breakpoints by address is such a host; how it treats a known address plays no part. -/
structure Host.AddsBreakpoints (host : Host σ) (list : σ → List Breakpoint) : Prop where
  lists (x : σ) : host .listBreakpoints x = (.ok (list x), x)
  adds (b : Breakpoint) (x : σ) (hnew : ∀ c ∈ list x, c.address ≠ b.address) :
    ∃ x', host (.setBreakpoint b) x = (.ok (), x') ∧ list x' = list x ++ [b]

namespace ScriptedHost

theorem insertBreakpoint_new {b : Breakpoint} {list : List Breakpoint}
    (hnew : ∀ c ∈ list, c.address ≠ b.address) : insertBreakpoint b list = list ++ [b] := by
  induction list with
  | nil => rfl
  | cons c rest ih =>
    obtain ⟨hc, hrest⟩ := List.forall_mem_cons.mp hnew
    rw [insertBreakpoint, if_neg hc, ih hrest, List.cons_append]

/-- A scripted host whose methods do not fail. -/
theorem perform_addsBreakpoints :
    Host.AddsBreakpoints (fun r (h : ScriptedHost) => h.perform r) (·.breakpoints) where
  lists _ := rfl
  adds _ _ hnew := ⟨_, rfl, insertBreakpoint_new hnew⟩

end ScriptedHost

namespace Console

variable {list : σ → List Breakpoint}

/-- Breakpoints at new addresses come behind those that were there, in their order. -/
theorem history_setLines_adds {host : Host σ} (hhost : host.AddsBreakpoints list) (x : σ)
    (s : Session) {items : List Breakpoint} (hkinds : ∀ b ∈ items, b.kind ≠ .unknown)
    (hdistinct : (list x ++ items).Pairwise (·.address ≠ ·.address)) :
    let steps := history builtinTable host s x (items.map fun b => .line (setLine b))
    (∀ t ∈ steps, t.output = []) ∧ list (hostAfter x steps) = list x ++ items := by
  induction items generalizing x with
  | nil => simp [history]
  | cons b rest ih =>
    obtain ⟨hb, hrest⟩ := List.forall_mem_cons.mp hkinds
    have hnew : ∀ c ∈ list x, c.address ≠ b.address := by
      intro c hc
      exact (List.pairwise_append.mp hdistinct).2.2 c hc b (List.mem_cons_self ..)
    obtain ⟨x', hset, hlist⟩ := hhost.adds b x hnew
    have happend : list x ++ b :: rest = list x' ++ rest := by
      rw [hlist, List.append_assoc, List.singleton_append]
    rw [happend] at hdistinct ⊢
    obtain ⟨houtput, hafter⟩ := ih x' hrest hdistinct
    rw [List.map_cons, history, take_setLine_ok hb hset]
    exact ⟨List.forall_mem_cons.mpr ⟨rfl, houtput⟩, hafter⟩

/-! ## Lists -/

/-- The lines that list breakpoints, whatever the session holds. -/
theorem listBreakpoints_output {line : String} (hline : calledName line = "ListBreakpoints")
    {host : Host σ} {x x' : σ} {items : List Breakpoint}
    (hlist : host .listBreakpoints x = (.ok items, x')) (s : Session) :
    ((execute builtinTable s line).converse host x).value.output =
      (Listing.breakpoints items).map .info := by
  have hreading : reading s line = .order (.request .listBreakpoints) :=
    reading_of_calledName hline (by decide) fun _ => rfl
  rw [execute_eq, hreading]
  show ((Order.single s .listBreakpoints).converse host x).value.output = _
  rw [Order.single, Dialogue.converse_orFail_ok hlist]
  rfl

/-- The lines that list breakpoints of known kinds have four tokens each, which make commands. Each
of these makes one request, for the breakpoint that was printed, and reports no failure of its own,
whatever the session holds. If all addresses differ, a host without breakpoints that adds them has
the same list again. -/
theorem breakpoints_replayed (items : List Breakpoint) (hkinds : ∀ b ∈ items, b.kind ≠ .unknown) :
    (∀ (lister : Host σ) (x x' : σ) (s : Session) (line : String),
      calledName line = "ListBreakpoints" → lister .listBreakpoints x = (.ok items, x') →
      ((execute builtinTable s line).converse lister x).value.output =
        (Listing.breakpoints items).map .info) ∧
    ∃ commands, (Listing.breakpoints items).mapM replay? = some commands ∧
      ∀ (host : Host σ) (x : σ) (s : Session),
        let steps := history builtinTable host s x (commands.map .line)
        List.Forall₂ (Stepped.Sets s) items steps ∧
        ∀ list, host.AddsBreakpoints list → list x = [] →
          items.Pairwise (·.address ≠ ·.address) →
          (∀ t ∈ steps, t.output = []) ∧
          host .listBreakpoints (hostAfter x steps) = (.ok items, hostAfter x steps) := by
  refine ⟨fun lister x x' s line hline hlist => listBreakpoints_output hline hlist s,
    items.map setLine, mapM_replay? items, fun host x s => ?_⟩
  have hsteps : (items.map setLine).map (Step.line (σ := σ)) =
      items.map fun b => .line (setLine b) := List.map_map
  rw [hsteps]
  refine ⟨history_setLines host x s hkinds, fun list hhost hempty hdistinct => ?_⟩
  obtain ⟨houtput, hafter⟩ :=
    history_setLines_adds hhost x s hkinds (by rwa [hempty, List.nil_append])
  refine ⟨houtput, ?_⟩
  rw [hhost.lists, hafter, hempty, List.nil_append]

/-- Two breakpoints, set again on a scripted host that has none. -/
theorem breakpoints_replayed_two :
    let items : List Breakpoint :=
      [⟨⟨0xF000, 0xFFFF1000⟩, .interruptWithAX, 0x4C, 0x0A⟩, ⟨⟨0x08, 0x21⟩, .normal, 0x00, 0xFF⟩]
    let host : Host ScriptedHost := fun r h => h.perform r
    (∀ b ∈ items, b.kind ≠ .unknown) ∧ ∃ commands,
      (Listing.breakpoints items).mapM replay? = some commands ∧ ∀ s : Session,
        let steps := history builtinTable host s {} (commands.map .line)
        host .listBreakpoints (hostAfter {} steps) = (.ok items, hostAfter {} steps) := by
  intro items host
  have hkinds : ∀ b ∈ items, b.kind ≠ .unknown := by decide
  have hdistinct : items.Pairwise (·.address ≠ ·.address) := by decide
  obtain ⟨-, commands, hcommands, hreplay⟩ := breakpoints_replayed items hkinds
  refine ⟨hkinds, commands, hcommands, fun s => ?_⟩
  obtain ⟨-, hrestored⟩ := hreplay host {} s
  exact (hrestored _ ScriptedHost.perform_addsBreakpoints rfl hdistinct).2

example : replay? "F000:FFFF1000 InterruptWithAX 4C 0A" =
    some "bp F000:FFFF1000 InterruptWithAX 04C 00A" := by decide +kernel

end Console

end DebugConsole
