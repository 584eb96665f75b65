import DebugConsole.Host.Scripted
import DebugConsole.Proofs.Command.Addresses
import DebugConsole.Proofs.Console.TypedLines

/-!
# Omitted operands

A line that leaves operands out leads to the same as one that gives their defaults
(`omitted_operands_default`).

- **Operands** (`Order.read_default`): a last word that is read as the default is as good as none.
  So it can be left out, and then the one before it.
- **The next instruction** (`address_eip`, `address_cs_eip`): words that are its address, which is
  where a listing without operands starts (`read_next`).
- **Lines** (`Interchangeable`): lines whose words are read alike hold the same conversation with
  every host. The first listing of all gets the state before (`execute_first_listing`).
-/

namespace DebugConsole

/-! ## Operands -/

namespace Operand

theorem orDefault_of_eq_ok {α : Type} {default : α} {parse : String → Except OperandError α}
    {word : String} (h : parse word = .ok default) :
    orDefault default parse word = orDefault default parse "" := by
  unfold orDefault
  split
  · rfl
  · exact h

end Operand

namespace Order

variable {help : List String} {s : Session}

/-- A last word of a command, behind others, that it reads as it reads none. -/
inductive IsDefault : (first : String) → (before : List String) → (last : String) → Prop where
  | length {last : String} (address : String)
      (h : Operand.count last = .ok Builtin.defaultBytes) : IsDefault "GetMemory" [address] last
  | count {last : String} (address : String)
      (h : Operand.count last = .ok Builtin.defaultInstructions) :
      IsDefault "Disassemble" [address] last
  | kind {last : String} (address : String) (h : Operand.breakpointKind last = .ok .normal) :
      IsDefault "SetBreakpoint" [address] last
  | ah {last : String} (address kind : String) (h : Operand.byte last = .ok 0) :
      IsDefault "SetBreakpoint" [address, kind] last
  | al {last : String} (address kind ah : String) (h : Operand.byte last = .ok 0) :
      IsDefault "SetBreakpoint" [address, kind, ah] last

theorem read_default {first last : String} {before : List String}
    (h : IsDefault first before last) :
    read help s before first = read help s (before ++ [last]) first := by
  cases h with
  | length _ h | count _ h | kind _ h | ah _ _ h | al _ _ _ h =>
    simp [read, word, Operand.orDefault_of_eq_ok h]

end Order

/-! ## The next instruction -/

namespace Operand

variable (s : Session)

theorem spellsOffset_eip : SpellsOffset s "eip" s.current.eip (some s.current.cs) := by
  have hmem : ("EIP", s.current.eip, s.current.cs) ∈ namedOffsets s.current := by
    simp [namedOffsets]
  exact .register hmem (by decide)

theorem address_eip : address s .code "eip" = .ok s.current.ip := by
  have heip := spellsOffset_eip s
  exact address_eq_ok_iff.mpr (.implied (by decide) (heip.impliedSegment_mem .code) heip)

theorem address_cs_eip : address s .code "cs:eip" = .ok s.current.ip := by
  have hmem : ("CS", s.current.cs) ∈ namedSegments s.current := by simp [namedSegments]
  have hcs : SpellsSegment s.current "cs" s.current.cs := .register hmem (by decide)
  have htoken : "cs:eip" = "cs" ++ ":" ++ "eip" := rfl
  exact address_eq_ok_iff.mpr (.explicit htoken (by decide) hcs (spellsOffset_eip s))

end Operand

/-- The order to list the code at the next instruction, by a word that is its address. -/
theorem Order.read_next {help : List String} {s : Session} {address : String}
    (h : Operand.address s .code address = .ok s.current.ip) :
    read help s [address] "Disassemble" =
      .ok (.request (.disassemble s.current.ip Builtin.defaultInstructions)) := by
  simp only [read, word, List.isEmpty_cons, Bool.false_eq_true, if_false, List.drop_zero,
    List.headD_cons, h]
  rfl

namespace Console

/-! ## Lines -/

/-- Lines of the first words and lines of the second lead to the same: to the same requests on every
host, and to the same output, flow and session for the same answers. -/
def Interchangeable (s : Session) (words words' : List String) : Prop :=
  ∀ line line', Text.words line = words → Text.words line' = words' →
    execute builtinTable s line = execute builtinTable s line'

variable {s : Session} {line line' : String} {words words' : List String}

/-- Words that a command reads alike. -/
theorem interchangeable_of_read {name first : String} (hname : CommandTable.isName name = true)
    (hfind : (builtinTable.find? name).map Builtin.firstName = some first)
    (hread : Order.read builtinTable.help s words first =
      Order.read builtinTable.help s words' first) :
    Interchangeable s (name :: words) (name :: words') := by
  intro line line' hwords hwords'
  rw [execute_of_words hname hwords hfind, execute_of_words hname hwords' hfind, hread]

theorem execute_listing (hline : Text.words line = "u" :: words) :
    execute builtinTable s line =
      whenRead s (Order.read builtinTable.help s words "Disassemble") (Order.dialogue s) :=
  execute_of_words (by decide) hline (by decide +kernel)

/-- Once there is a state, a listing without operands starts at the next instruction. -/
theorem interchangeable_next (hsynced : s.synced = true)
    (hread : Order.read builtinTable.help s words "Disassemble" =
      .ok (.request (.disassemble s.current.ip Builtin.defaultInstructions))) :
    Interchangeable s ["u"] ("u" :: words) := by
  intro line line' hline hline'
  rw [execute_listing hline, execute_listing hline', hread]
  exact Order.dialogue_disassembleHere hsynced

/-- The first listing gets the state, and then it is one at the next instruction. -/
theorem execute_first_listing (hsynced : s.synced = false) (hline : Text.words line = ["u"])
    (hline' : Text.words line' = ["u", "eip"]) :
    execute builtinTable s line =
      .orFail s .getState fun r => execute builtinTable (s.update r) line' := by
  rw [execute_listing hline]
  apply (Order.dialogue_disassembleHere_first hsynced).trans
  congr 1
  funext r
  rw [execute_listing hline', Order.read_next (Operand.address_eip _)]
  rfl

theorem execute_state (hline : Text.words line = ["r"]) :
    execute builtinTable s line = .orFail s .getState fun r =>
      .done ⟨.continue, s.update r, (Listing.registers r).map .info⟩ := by
  have hfind : (builtinTable.find? "r").map Builtin.firstName = some "GetState" := by
    decide +kernel
  exact execute_of_words (by decide) hline hfind

/-! ## Defaults -/

/-- What stands for an omitted operand: 64 bytes of a dump, ten instructions of a listing, the
normal kind of a breakpoint and zeros behind it, and the next instruction as the place of a listing. -/
structure TakesDefaults (s : Session) : Prop where
  length (address : String) : Interchangeable s ["d", address] ["d", address, "64"]
  count (address : String) : Interchangeable s ["u", address] ["u", address, "10"]
  kind (address : String) : Interchangeable s ["bp", address] ["bp", address, "N", "0", "0"]
  ah (address kind : String) :
    Interchangeable s ["bp", address, kind] ["bp", address, kind, "0", "0"]
  al (address kind ah : String) :
    Interchangeable s ["bp", address, kind, ah] ["bp", address, kind, ah, "0"]
  next (hsynced : s.synced = true) : Interchangeable s ["u"] ["u", "eip"] ∧
    Interchangeable s ["u"] ["u", "cs:eip"] ∧
    Interchangeable s ["u"] ["u", s.current.ip.text, "10"]
  /-- Without a state, the listing gets it as the command does that shows it, but prints nothing
  before it lists. -/
  first (hsynced : s.synced = false) (bare spelled state : String)
    (hbare : Text.words bare = ["u"]) (hspelled : Text.words spelled = ["u", "eip"])
    (hstate : Text.words state = ["r"]) :
    execute builtinTable s state = .orFail s .getState (fun r =>
        .done ⟨.continue, s.update r, (Listing.registers r).map .info⟩) ∧
      execute builtinTable s bare = .orFail s .getState fun r =>
        execute builtinTable (s.update r) spelled

/-- In every session, a line without operands leads to the same as one that gives their defaults,
also where another operand is refused or the host fails. -/
theorem omitted_operands_default (s : Session) : TakesDefaults s := by
  have hlength : Operand.count "64" = .ok Builtin.defaultBytes := by decide +kernel
  have hcount : Operand.count "10" = .ok Builtin.defaultInstructions := by decide +kernel
  have hkind : Operand.breakpointKind "N" = .ok .normal := by decide +kernel
  have hzero : Operand.byte "0" = .ok 0 := by decide +kernel
  have hdump : (builtinTable.find? "d").map Builtin.firstName = some "GetMemory" := by
    decide +kernel
  have hlist : (builtinTable.find? "u").map Builtin.firstName = some "Disassemble" := by
    decide +kernel
  have hset : (builtinTable.find? "bp").map Builtin.firstName = some "SetBreakpoint" := by
    decide +kernel
  have hdefault {first last : String} {before : List String}
      (h : Order.IsDefault first before last) :
      Order.read builtinTable.help s before first =
        Order.read builtinTable.help s (before ++ [last]) first := Order.read_default h
  constructor
  case length =>
    intro address
    exact interchangeable_of_read (by decide) hdump (hdefault (.length address hlength))
  case count =>
    intro address
    exact interchangeable_of_read (by decide) hlist (hdefault (.count address hcount))
  case kind =>
    intro address
    have hah := (hdefault (.ah address "N" hzero)).trans (hdefault (.al address "N" "0" hzero))
    exact interchangeable_of_read (by decide) hset ((hdefault (.kind address hkind)).trans hah)
  case ah =>
    intro address kind
    have hal := hdefault (.al address kind "0" hzero)
    exact interchangeable_of_read (by decide) hset ((hdefault (.ah address kind hzero)).trans hal)
  case al =>
    intro address kind ah
    exact interchangeable_of_read (by decide) hset (hdefault (.al address kind ah hzero))
  case next =>
    intro hsynced
    have htext := Operand.address_text s .code s.current.ip
    have hten := hdefault (.count s.current.ip.text hcount)
    exact ⟨interchangeable_next hsynced (Order.read_next (Operand.address_eip s)),
      interchangeable_next hsynced (Order.read_next (Operand.address_cs_eip s)),
      interchangeable_next hsynced (hten.symm.trans (Order.read_next htext))⟩
  case first =>
    intro hsynced bare spelled state hbare hspelled hstate
    exact ⟨execute_state hstate, execute_first_listing hsynced hbare hspelled⟩

/-- A dump with its only operand, a breakpoint at a refused address, a listing of the code at the
next instruction, and the first listing. -/
theorem omitted_operands_default_refused :
    let fresh : Session := { resolve := fun _ => none, codeSize := .bits16 }
    let s := fresh.update { cs := 0x08, eip := 0x100 }
    let conversation (s : Session) (line : String) :=
      (execute builtinTable s line).converse ScriptedHost.answer {}
    (conversation s " d  8:20").requests = [.readMemory ⟨0x08, 0x20⟩ 64] ∧
      execute builtinTable s " d  8:20" = execute builtinTable s "d 8:20 64" ∧
      (conversation s "bp nowhere").value.output =
        [.error "Parse error: Unresolved symbol \"nowhere\""] ∧
      execute builtinTable s "bp nowhere" = execute builtinTable s "bp nowhere N 0 0" ∧
      s.synced = true ∧ (conversation s "u").requests = [.disassemble ⟨0x08, 0x100⟩ 10] ∧
      execute builtinTable s "u" = execute builtinTable s "u 0008:00000100 10" ∧
      fresh.synced = false ∧
      execute builtinTable fresh "u" = .orFail fresh .getState fun r =>
        execute builtinTable (fresh.update r) "u eip" := by
  intro fresh s conversation
  have hs := omitted_operands_default s
  have hfresh := omitted_operands_default fresh
  have hdump : execute builtinTable s " d  8:20" = execute builtinTable s "d 8:20 64" :=
    hs.length "8:20" _ _ (by decide +kernel) (by decide +kernel)
  have hrefused :
      execute builtinTable s "bp nowhere" = execute builtinTable s "bp nowhere N 0 0" :=
    hs.kind "nowhere" _ _ (by decide +kernel) (by decide +kernel)
  have hnext : execute builtinTable s "u" = execute builtinTable s "u 0008:00000100 10" :=
    (hs.next rfl).2.2 _ _ (by decide +kernel) (by decide +kernel)
  obtain ⟨-, hfirst⟩ := hfresh.first rfl "u" "u eip" "r" (by decide +kernel) (by decide +kernel)
    (by decide +kernel)
  exact ⟨by decide +kernel, hdump, by decide +kernel, hrefused, rfl, by decide +kernel, hnext, rfl,
    hfirst⟩

end Console

end DebugConsole
