import DebugConsole.Host.Scripted
import DebugConsole.Proofs.Console.Decoders
import DebugConsole.Proofs.Program.Start
import DebugConsole.Proofs.Text.Digits

/-!
# Configurations

Which environments are configurations, and what is relied on afterwards (`read_exact`): whatever is
typed and whatever the host says, decoders are made for 16 or 32 bits, and the log holds as many
lines as it was set up for.

- **Texts** (`NamesBus`, `SpellsLines`, `SpellsBits`): what each of the variables may hold.
- **Variables** (`grammar`): they are looked at in this order, and the first one that is malformed is
  named (`read_error`).
- **Runs** (`Config.Kept`): what the numbers of a configuration come to in a run.
-/

namespace DebugConsole

namespace ConfigError

/-- The outermost message begins with a name. -/
def Names (e : ConfigError) (name : String) : Prop :=
  ∃ rest causes, e.chain = (name ++ rest) :: causes

/-- The variable that an error is about. -/
def culprit : ConfigError → String
  | .badBus _ => "DEBUGBOX_BUS"
  | .badHistory _ _ | .emptyHistory => "DEBUGBOX_HISTORY"
  | .badCodeSize _ => "DEBUGBOX_BITNESS"

/-- Every error names the variable that it is about. -/
theorem names_culprit (e : ConfigError) : e.Names e.culprit := by
  have hquoted {front name rest : String} (h : front = name ++ rest) (value : String) :
      front ++ value ++ "\"" = name ++ (rest ++ value ++ "\"") := by
    rw [h]
    simp only [String.append_assoc]
  cases e with
  | badBus value =>
    have hfront : "DEBUGBOX_BUS: expected `session` or `system`, got \"" =
        "DEBUGBOX_BUS" ++ ": expected `session` or `system`, got \"" := by decide
    exact ⟨_, _, congrArg (· :: _) (hquoted hfront value)⟩
  | badHistory value cause =>
    have hfront : "DEBUGBOX_HISTORY: bad line count \"" =
        "DEBUGBOX_HISTORY" ++ ": bad line count \"" := by decide
    exact ⟨_, _, congrArg (· :: _) (hquoted hfront value)⟩
  | emptyHistory => exact ⟨": must be at least 1", [], rfl⟩
  | badCodeSize value =>
    have hfront : "DEBUGBOX_BITNESS: expected 16 or 32, got \"" =
        "DEBUGBOX_BITNESS" ++ ": expected 16 or 32, got \"" := by decide
    exact ⟨_, _, congrArg (· :: _) (hquoted hfront value)⟩

end ConfigError

namespace Config

variable {text : String} {lookup : String → Option String}

/-! ## Texts -/

/-- The name of a bus, in any letter case. -/
def NamesBus (text : String) : Prop :=
  Text.sameName text "session" = true ∨ Text.sameName text "system" = true

/-- A number of lines: digits with a plus in front of them or without, whose value is not zero and
fits 64 bits. -/
def SpellsLines (text : String) (n : Nat) : Prop :=
  (∃ digits, (text.toList = digits ∨ text.toList = '+' :: digits) ∧
    Text.digits? 10 digits = some n) ∧ 1 ≤ n ∧ n < 2 ^ 64

/-- A number of bits. -/
def SpellsBits (text : String) (bits : Nat) : Prop :=
  text = "16" ∧ bits = 16 ∨ text = "32" ∧ bits = 32

theorem exists_readBus_iff : (∃ bus, readBus text = .ok bus) ↔ NamesBus text := by
  have hsession : Text.lower text = "session" ↔ Text.sameName text "session" = true := by
    rw [Text.sameName_iff_lower, show Text.lower "session" = "session" by decide +kernel]
  have hsystem : Text.lower text = "system" ↔ Text.sameName text "system" = true := by
    rw [Text.sameName_iff_lower, show Text.lower "system" = "system" by decide +kernel]
  rw [NamesBus, ← hsession, ← hsystem, readBus]
  by_cases h : Text.lower text = "session"
  · simp [h]
  · by_cases h' : Text.lower text = "system"
    · simp [h']
    · simp [h, h']

theorem readHistory_eq_ok_iff {n : UInt64} :
    readHistory text = .ok n ↔ SpellsLines text n.toNat := by
  have hread (m : Nat) : Text.readUnsigned 10 UInt64.size text = .ok m ↔ m < UInt64.size ∧
      ∃ digits, (text.toList = digits ∨ text.toList = '+' :: digits) ∧
        Text.digits? 10 digits = some m :=
    Text.readUnsigned_eq_ok_iff (by decide) (by decide)
  have hspells : SpellsLines text n.toNat ↔
      Text.readUnsigned 10 UInt64.size text = .ok n.toNat ∧ 1 ≤ n.toNat := by
    have hn : n.toNat < 2 ^ 64 := n.toNat_lt
    rw [hread, SpellsLines, show UInt64.size = 2 ^ 64 from rfl]
    simp only [hn, true_and, and_true]
  rw [hspells, readHistory]
  split
  case h_1 cause hcause => simp [hcause]
  case h_2 hzero =>
    refine iff_of_false (by simp) ?_
    rintro ⟨hvalue, hpos⟩
    have hnone : n.toNat = 0 := Except.ok.inj (hvalue.symm.trans hzero)
    omega
  case h_3 m hne hvalue =>
    have hm : m < UInt64.size := ((hread m).mp hvalue).1
    rw [hvalue, Except.ok.injEq, Except.ok.injEq]
    constructor
    · rintro rfl
      rw [UInt64.toNat_ofNat_of_lt' hm]
      exact ⟨rfl, Nat.pos_of_ne_zero hne⟩
    · rintro ⟨rfl, -⟩
      exact UInt64.ofNat_toNat

theorem readCodeSize_eq_ok_iff {size : CodeSize} :
    readCodeSize text = .ok size ↔ SpellsBits text size.bits := by
  unfold readCodeSize SpellsBits
  split
  case isTrue h => cases size <;> simp [h, CodeSize.bits]
  case isFalse h =>
    split
    case isTrue h' => cases size <;> simp [h', CodeSize.bits]
    case isFalse h' => simp [h, h']

/-! ## Variables -/

/-- The variables that can be malformed, in the order in which they are looked at, with the texts
that each of them may hold. -/
def grammar : List (String × (String → Prop)) :=
  [("DEBUGBOX_BUS", NamesBus),
   ("DEBUGBOX_HISTORY", fun text => ∃ n, SpellsLines text n),
   ("DEBUGBOX_BITNESS", fun text => ∃ bits, SpellsBits text bits)]

/-- A variable is not set, or holds one of its texts. -/
def WellFormed (lookup : String → Option String) (entry : String × (String → Prop)) : Prop :=
  ∀ text, lookup entry.1 = some text → entry.2 text

/-- A reader of a variable accepts the texts that the variable may hold, and names the variable if
it refuses one. -/
structure Reads {α : Type} (entry : String × (String → Prop))
    (read : String → Except ConfigError α) : Prop where
  accepts (text : String) : (∃ a, read text = .ok a) ↔ entry.2 text
  names {text : String} {e : ConfigError} (h : read text = .error e) : e.Names entry.1

section Reading

variable {α : Type} {entry : String × (String → Prop)} {read : String → Except ConfigError α}
  {default a : α} {e : ConfigError}

theorem Reads.wellFormed (h : Reads entry read)
    (hread : orDefault default read (lookup entry.1) = .ok a) : WellFormed lookup entry := by
  intro text htext
  rw [htext] at hread
  exact (h.accepts text).mp ⟨a, hread⟩

theorem Reads.malformed (h : Reads entry read)
    (hread : orDefault default read (lookup entry.1) = .error e) :
    ¬ WellFormed lookup entry ∧ e.Names entry.1 := by
  cases hlookup : lookup entry.1 with
  | none =>
    rw [hlookup] at hread
    cases hread
  | some text =>
    rw [hlookup] at hread
    refine ⟨fun hwell => ?_, h.names hread⟩
    obtain ⟨a, ha⟩ := (h.accepts text).mpr (hwell text hlookup)
    cases ha.symm.trans hread

end Reading

theorem reads_bus : Reads ("DEBUGBOX_BUS", NamesBus) readBus where
  accepts _ := exists_readBus_iff
  names {text e} h := by
    have hculprit : e.culprit = "DEBUGBOX_BUS" := by
      unfold readBus at h
      split at h
      · cases h
      · split at h <;> cases h
        rfl
    exact hculprit ▸ e.names_culprit

theorem reads_history : Reads ("DEBUGBOX_HISTORY", fun text => ∃ n, SpellsLines text n)
    readHistory where
  accepts text := by
    simp only [readHistory_eq_ok_iff]
    constructor
    · rintro ⟨n, hn⟩
      exact ⟨n.toNat, hn⟩
    · rintro ⟨n, hn⟩
      have hlt : n < 2 ^ 64 := hn.2.2
      exact ⟨.ofNat n, by rwa [UInt64.toNat_ofNat_of_lt' hlt]⟩
  names {text e} h := by
    have hculprit : e.culprit = "DEBUGBOX_HISTORY" := by
      unfold readHistory at h
      split at h <;> cases h <;> rfl
    exact hculprit ▸ e.names_culprit

theorem reads_codeSize : Reads ("DEBUGBOX_BITNESS", fun text => ∃ bits, SpellsBits text bits)
    readCodeSize where
  accepts text := by
    simp only [readCodeSize_eq_ok_iff]
    constructor
    · rintro ⟨size, hsize⟩
      exact ⟨size.bits, hsize⟩
    · rintro ⟨_, ⟨htext, rfl⟩ | ⟨htext, rfl⟩⟩
      · exact ⟨.bits16, .inl ⟨htext, rfl⟩⟩
      · exact ⟨.bits32, .inr ⟨htext, rfl⟩⟩
  names {text e} h := by
    have hculprit : e.culprit = "DEBUGBOX_BITNESS" := by
      unfold readCodeSize at h
      split at h
      · cases h
      · split at h <;> cases h
        rfl
    exact hculprit ▸ e.names_culprit

/-- A refused configuration names the first variable that is malformed, whatever the others hold. -/
theorem read_error {e : ConfigError} (h : read lookup = .error e) :
    ∃ before entry after, grammar = before ++ entry :: after ∧
      (∀ earlier ∈ before, WellFormed lookup earlier) ∧ ¬ WellFormed lookup entry ∧
        e.Names entry.1 := by
  simp only [read, bind_eq_error_iff] at h
  obtain hbus | ⟨bus, hbus, hhistory | ⟨history, hhistory, hcodeSize | ⟨codeSize, -, ⟨⟩⟩⟩⟩ := h
  · exact ⟨[], _, _, rfl, List.forall_mem_nil _, reads_bus.malformed hbus⟩
  · refine ⟨[_], _, _, rfl, ?_, reads_history.malformed hhistory⟩
    exact List.forall_mem_singleton.mpr (reads_bus.wellFormed hbus)
  · refine ⟨[_, _], _, _, rfl, ?_, reads_codeSize.malformed hcodeSize⟩
    exact List.forall_mem_cons.mpr ⟨reads_bus.wellFormed hbus,
      List.forall_mem_singleton.mpr (reads_history.wellFormed hhistory)⟩

theorem exists_read_iff :
    (∃ c, read lookup = .ok c) ↔ ∀ entry ∈ grammar, WellFormed lookup entry := by
  constructor
  · rintro ⟨c, h⟩
    simp only [read, bind_eq_ok_iff] at h
    obtain ⟨bus, hbus, history, hhistory, codeSize, hcodeSize, -⟩ := h
    simp only [grammar, List.forall_mem_cons]
    exact ⟨reads_bus.wellFormed hbus, reads_history.wellFormed hhistory,
      reads_codeSize.wellFormed hcodeSize, List.forall_mem_nil _⟩
  · intro hwell
    cases hread : read lookup with
    | ok c => exact ⟨c, rfl⟩
    | error e =>
      obtain ⟨before, entry, after, hgrammar, -, hmalformed, -⟩ := read_error hread
      exact absurd (hwell entry (by simp [hgrammar])) hmalformed

/-! ## Runs -/

/-- A variable gives a value: the one that its text spells, or the default if it is not set. -/
def Gives {α : Type} (spells : String → α → Prop) (default : α) : Option String → α → Prop
  | none, a => a = default
  | some text, a => spells text a

/-- In every run on this configuration, decoders are made for decodable numbers of bits only, where
code without a descriptor has the given number, and the log has the given capacity. -/
structure Kept (c : Config) (bits capacity : Nat) : Prop where
  lines {σ : Type} (host : Host σ) (x : σ) (resolve : String → Option UInt32)
    (steps : List (Console.Step σ)) :
    ∀ b ∈ Console.history builtinTable host { resolve, codeSize := c.codeSize } x steps,
      ∀ line, b.step = .line line → Console.DecodesSafely bits b.before line
  screen {σ : Type} (host : Host σ) (x : σ) (resolve : String → Option UInt32)
    (width height : Nat) (messages : List Message) :
    let s : Session := { resolve, codeSize := c.codeSize }
    let created := (App.create width height c.history.toNat s).converse host x
    created.value.history.capacity = capacity ∧
      ∀ t ∈ created.value.steps builtinTable host created.host messages,
        t.after.history.capacity = capacity ∧
          (t.message = .execute →
            Console.DecodesSafely bits t.before.session t.before.input)

theorem kept (c : Config) (h : 1 ≤ c.history.toNat) : c.Kept c.codeSize.bits c.history.toNat where
  lines host x resolve steps := Console.history_decodesSafely host _ x steps
  screen host x resolve width height messages := by
    intro s created
    obtain ⟨hsession, hhistory⟩ := App.create_value width height c.history.toNat s host x
    have hcapacity : created.value.history.capacity = c.history.toNat := by
      rw [hhistory]
      exact Nat.max_eq_left h
    have hsteps := App.steps_decodesSafely host created.value created.host messages
    rw [hcapacity, show created.value.session = s from hsession] at hsteps
    exact ⟨hcapacity, hsteps⟩

/-- What is read of a variable is what the variable gives, if the reader reads what is spelled. -/
theorem gives_of_orDefault {α β : Type} {spells : String → α → Prop} {value : β → α}
    {read : String → Except ConfigError β} (hread : ∀ text b, read text = .ok b → spells text (value b))
    {default b : β} {set : Option String} (h : orDefault default read set = .ok b) :
    Gives spells (value default) set (value b) := by
  cases set with
  | none =>
    cases h
    rfl
  | some text => exact hread text b h

theorem gives_of_read {c : Config} (h : read lookup = .ok c) :
    Gives SpellsLines 1000 (lookup "DEBUGBOX_HISTORY") c.history.toNat ∧
      Gives SpellsBits 16 (lookup "DEBUGBOX_BITNESS") c.codeSize.bits := by
  simp only [read, bind_eq_ok_iff] at h
  obtain ⟨bus, -, history, hhistory, codeSize, hcodeSize, ⟨⟩⟩ := h
  exact ⟨gives_of_orDefault (fun _ _ => readHistory_eq_ok_iff.mp) hhistory,
    gives_of_orDefault (fun _ _ => readCodeSize_eq_ok_iff.mp) hcodeSize⟩

theorem Gives.positive {set : Option String} {n : Nat} (h : Gives SpellsLines 1000 set n) :
    1 ≤ n := by
  cases set with
  | none =>
    obtain rfl : n = 1000 := h
    decide
  | some text => exact h.2.1

/-- An environment is a configuration exactly if every variable that is set holds one of its texts.
If not, the first one that does not is named, whatever the others hold. In every run on a
configuration, whatever is typed and whatever the host says, decoders are made for 16 or 32 bits
only, and the log has the capacity that was given, which is not zero. -/
theorem read_exact (lookup : String → Option String) :
    ((∃ c, read lookup = .ok c) ↔ ∀ entry ∈ grammar, WellFormed lookup entry) ∧
    (∀ e, read lookup = .error e → ∃ before entry after, grammar = before ++ entry :: after ∧
      (∀ earlier ∈ before, WellFormed lookup earlier) ∧ ¬ WellFormed lookup entry ∧
        e.Names entry.1) ∧
    ∀ c, read lookup = .ok c → ∃ bits capacity,
      Gives SpellsBits 16 (lookup "DEBUGBOX_BITNESS") bits ∧ Decodable bits ∧
        Gives SpellsLines 1000 (lookup "DEBUGBOX_HISTORY") capacity ∧ 1 ≤ capacity ∧
          c.Kept bits capacity := by
  refine ⟨exists_read_iff, fun e he => read_error he, fun c hc => ?_⟩
  obtain ⟨hcapacity, hbits⟩ := gives_of_read hc
  exact ⟨_, _, hbits, c.codeSize.decodable_bits, hcapacity, hcapacity.positive,
    c.kept hcapacity.positive⟩

/-- A plus and zeros in front of the number of lines, and 32 bits for the code of a machine without
descriptors. Of two variables that are malformed, the first is named. -/
theorem read_exact_thirty_two :
    let lookup := fun name => [("DEBUGBOX_BUS", "SYSTEM"), ("DEBUGBOX_HISTORY", "+0050"),
      ("DEBUGBOX_BITNESS", "32")].lookup name
    let malformed := fun name => [("DEBUGBOX_HISTORY", "0"), ("DEBUGBOX_BITNESS", "64")].lookup name
    let c : Config := { bus := .system, history := 50, codeSize := .bits32 }
    let s : Session := { resolve := fun _ => none, codeSize := c.codeSize }
    read lookup = .ok c ∧ c.Kept 32 50 ∧
      ((Console.trace 32 s "p").converse ScriptedHost.answer {}).value.decoders = [32] ∧
      read malformed = .error .emptyHistory ∧
      ∃ before entry after, grammar = before ++ entry :: after ∧
        (∀ earlier ∈ before, WellFormed malformed earlier) ∧ ¬ WellFormed malformed entry ∧
          ConfigError.emptyHistory.Names entry.1 := by
  intro lookup malformed c s
  have hread : read lookup = .ok c := by decide +kernel
  have hmalformed : read malformed = .error .emptyHistory := by decide +kernel
  obtain ⟨-, -, hkept⟩ := read_exact lookup
  obtain ⟨bits, capacity, hbits, -, hcapacity, -, hc⟩ := hkept c hread
  obtain rfl : bits = 32 := by
    obtain ⟨htext, -⟩ | ⟨-, hbits⟩ := hbits
    · exact absurd htext (by decide)
    · exact hbits
  obtain rfl : capacity = 50 := by
    obtain ⟨⟨digits, rfl | hdigits, hvalue⟩, -⟩ := hcapacity
    · cases hvalue
    · obtain rfl : ['0', '0', '5', '0'] = digits := List.tail_eq_of_cons_eq hdigits
      exact (Option.some.inj hvalue).symm
  obtain ⟨-, herror, -⟩ := read_exact malformed
  exact ⟨hread, hc, by decide +kernel, hmalformed, herror _ hmalformed⟩

end Config

end DebugConsole
