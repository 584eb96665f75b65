import DebugConsole.Host.Scripted
import DebugConsole.Proofs.Command.Asking

/-!
# Well-formed requests

Whatever is typed, the host gets well-formed requests only (`requests_wellFormed`): counts and
lengths are not negative, byte lists are not empty, and no breakpoint is of an unknown kind.

- **Readings** (`Ensures`): what holds of every value that a reading can have; a rule for each step.
- **Operands** (`count_ensures`, ...): what the parsers let through, however a number is spelled.
- **Requests** (`Request.WellFormed`): an order that is read makes a well-formed request
  (`Order.read_ensures`), and so do the orders that make requests of their own.
-/

namespace DebugConsole

variable {ε α β σ : Type}

/-! ## Readings -/

/-- Every value that a reading can have satisfies `P`. -/
def Ensures (x : Except ε α) (P : α → Prop) : Prop :=
  ∀ a, x = .ok a → P a

namespace Ensures

variable {x : Except ε α} {f : α → Except ε β} {P : α → Prop} {Q : β → Prop}

theorem ok {a : α} (h : P a) : Ensures (.ok a : Except ε α) P := by
  rintro _ ⟨⟩
  exact h

theorem error {e : ε} : Ensures (.error e) P := by
  intro a h
  cases h

theorem unknown : Ensures x fun _ => True :=
  fun _ _ => trivial

theorem bind (hx : Ensures x P) (hf : ∀ a, P a → Ensures (f a) Q) : Ensures (x >>= f) Q := by
  intro b hb
  obtain ⟨a, ha, hb⟩ := bind_ok hb
  exact hf a (hx a ha) b hb

/-- A value that is refused under some condition. -/
theorem guarded {c : Prop} [Decidable c] {e : ε} {a : α} (h : ¬ c → P a) :
    Ensures (do
      if c then throw e
      return a : Except ε α) P := by
  by_cases hc : c
  · rw [if_pos hc]
    exact error
  · rw [if_neg hc]
    exact ok (h hc)

end Ensures

/-! ## Operands -/

namespace Operand

theorem count_ensures (token : String) : Ensures (count token) fun n => 0 ≤ n.toInt := by
  refine Ensures.unknown.bind fun n _ => .guarded fun hneg => ?_
  rw [Int32.lt_iff_toInt_lt] at hneg
  exact Int.not_lt.mp hneg

theorem searchLength_ensures (token : String) :
    Ensures (searchLength token) fun n => -1 ≤ n.toInt := by
  refine Ensures.unknown.bind fun n _ => .guarded fun hlow => ?_
  rw [Int32.lt_iff_toInt_lt] at hlow
  exact Int.not_lt.mp hlow

theorem bytes_ensures (tokens : List String) : Ensures (bytes tokens) (· ≠ []) := by
  refine Ensures.unknown.bind fun values _ => .guarded fun hempty => ?_
  simpa using hempty

theorem breakpointKind_ensures (token : String) :
    Ensures (breakpointKind token) (· ≠ .unknown) := by
  intro kind h
  have hnames : ∀ pair ∈ breakpointNames, pair.2 ≠ .unknown := by decide
  unfold breakpointKind at h
  cases hlookup : breakpointNames.lookup (Text.upper token) with
  | none => simp [hlookup] at h
  | some kind' =>
    obtain rfl : kind' = kind := by simpa [hlookup] using h
    obtain ⟨before, after, hsplit, -⟩ := List.lookup_eq_some_iff.mp hlookup
    exact hnames (Text.upper token, kind') (by simp [hsplit])

theorem orDefault_ensures {P : α → Prop} {default : α} {parse : String → Except OperandError α}
    (hdefault : P default) (hparse : ∀ token, Ensures (parse token) P) (word : String) :
    Ensures (orDefault default parse word) P := by
  unfold orDefault
  split
  · exact .ok hdefault
  · exact hparse word

end Operand

/-! ## Requests -/

/-- What a host can rely on. -/
def Request.WellFormed : Request → Prop
  | .stepMultiple count | .disassemble _ count => 0 ≤ count.toInt
  | .readMemory _ length => 0 ≤ length.toInt
  | .searchMemory _ length pattern advance => -1 ≤ length.toInt ∧ pattern ≠ [] ∧ advance = 0
  | .writeMemory _ bytes => bytes ≠ []
  | .setBreakpoint b => b.kind ≠ .unknown
  | _ => True

namespace Order

/-- The order makes no ill-formed request of its operands. -/
def WellFormed (o : Order) : Prop :=
  ∀ r, o = .request r → r.WellFormed

theorem wellFormed_request {r : Request} (h : r.WellFormed) : (request r).WellFormed := by
  rintro _ ⟨⟩
  exact h

/-- The orders that need no operands. -/
theorem permits_wellFormed : Permits Request.WellFormed Request.WellFormed where
  state := trivial
  localTable := trivial
  globalTable := trivial
  code _ := show 0 ≤ (Int32.ofNat Instruction.maxLength).toInt by decide
  run _ := trivial
  step := trivial
  listing _ := show 0 ≤ Builtin.defaultInstructions.toInt by decide

/-- Whatever the words are, an order that is read from them makes no ill-formed request. -/
theorem read_ensures (help : List String) (s : Session) (words : List String) (name : String) :
    Ensures (read help s words name) WellFormed := by
  unfold read
  split
  -- The commands that read operands are left, in the order of the table.
  all_goals try exact .ok (by rintro r ⟨⟩ <;> trivial)
  · exact (Operand.count_ensures _).bind fun n hn => .ok (wellFormed_request hn)
  · exact Ensures.unknown.bind fun a _ => .ok (wellFormed_request trivial)
  · split
    · exact .ok (by rintro r ⟨⟩)
    · refine Ensures.unknown.bind fun a _ => ?_
      refine (Operand.orDefault_ensures ?_ Operand.count_ensures _).bind fun n hn => ?_
      · decide
      · exact .ok (wellFormed_request hn)
  · refine Ensures.unknown.bind fun a _ => ?_
    refine (Operand.orDefault_ensures ?_ Operand.count_ensures _).bind fun n hn => ?_
    · decide
    · exact .ok (wellFormed_request hn)
  · refine Ensures.unknown.bind fun a _ => ?_
    exact (Operand.bytes_ensures _).bind fun bytes hbytes => .ok (wellFormed_request hbytes)
  · refine Ensures.unknown.bind fun a _ => ?_
    refine (Operand.searchLength_ensures _).bind fun n hn => ?_
    refine (Operand.bytes_ensures _).bind fun pattern hpattern => ?_
    exact .ok (wellFormed_request ⟨hn, hpattern, rfl⟩)
  · refine Ensures.unknown.bind fun a _ => ?_
    refine (Operand.orDefault_ensures ?_ Operand.breakpointKind_ensures _).bind fun kind hkind => ?_
    · decide
    · refine Ensures.unknown.bind fun ah _ => Ensures.unknown.bind fun al _ => ?_
      exact .ok (wellFormed_request hkind)
  · exact Ensures.unknown.bind fun a _ => .ok (wellFormed_request trivial)
  · refine Ensures.unknown.bind fun register _ => Ensures.unknown.bind fun value _ => ?_
    exact .ok (wellFormed_request trivial)

end Order

/-! ## Lines -/

namespace Console

/-- Every request that a line makes is well-formed, whatever the line, the session and the host. -/
theorem requests_wellFormed (host : Host σ) (x : σ) (s : Session) (line : String) :
    ∀ r ∈ ((execute builtinTable s line).converse host x).requests, r.WellFormed := by
  have hasks : (execute builtinTable s line).Asks Request.WellFormed Request.WellFormed := by
    refine execute_asks Order.permits_wellFormed fun r hreading => ?_
    obtain ⟨command, words, -, hread⟩ := read_of_reading hreading
    exact Order.read_ensures _ _ _ _ _ hread r rfl
  intro r hr
  exact (hasks.requests host x r hr).elim id id

/-- A search whose length is spelled with all 32 bits set, which means no limit; a dump of that
length is refused. -/
theorem requests_wellFormed_search :
    let s : Session := { resolve := fun _ => none, codeSize := .bits16 }
    let asked (line : String) : List Request :=
      ((execute builtinTable s line).converse ScriptedHost.answer {}).requests
    let search : Request := .searchMemory ⟨0, 0x10⟩ (-1) [0x4D, 0x5A] 0
    search ∈ asked "s 0:10 0xFFFFFFFF 77 05A" ∧ search.WellFormed ∧
      asked "d 0:10 0xFFFFFFFF" = [] := by
  intro s asked search
  have hsearch : search ∈ asked "s 0:10 0xFFFFFFFF 77 05A" := by decide +kernel
  exact ⟨hsearch, requests_wellFormed ScriptedHost.answer {} s _ search hsearch, by decide +kernel⟩

end Console

end DebugConsole
