import DebugConsole.Host.Scripted
import DebugConsole.Proofs.Command.CaseVariants
import DebugConsole.Proofs.Command.Tables

/-!
# Lines in other letter case

Two lines that differ in letter case only have the same effect (`letterCase_free`), on every host
and in every session that resolves symbols whatever their case.

- **Readings** (`Reading.Alike`): what the two lines ask for is the same, up to what a report
  quotes.
- **Reports** (`Quotes`): the two kinds of reports that quote the line. Each quotes what stands in
  its own line, at the same place (`Outcome.SameButQuoted`).
-/

namespace DebugConsole.Console

variable {σ : Type}

/-! ## Readings -/

/-- The same reading, or two that say no more than that the same place of both lines is refused. -/
inductive Reading.Alike (line line' : List Char) : Reading → Reading → Prop where
  | same (r : Reading) : Alike line line' r r
  | unknown {name name' : String} (h : Text.SamePlace line line' name.toList name'.toList) :
    Alike line line' (.unknown name) (.unknown name')
  | refused {fault : String → OperandError} {q q' : String} (hfault : fault ∈ OperandError.quoting)
    (h : Text.SamePlace line line' q.toList q'.toList) :
    Alike line line' (.refused (fault q)) (.refused (fault q'))

/-- No word of a line begins with `0X`. -/
def NoCapitalX (line : String) : Prop :=
  ∀ word ∈ Text.words line, Operand.NoCapitalX word

instance (line : String) : Decidable (NoCapitalX line) :=
  inferInstanceAs (Decidable (∀ _ ∈ _, _))

theorem words_variants {line line' : String} (hline : Text.sameName line line' = true)
    (hx : NoCapitalX line) (hx' : NoCapitalX line') :
    List.Forall₂ (Operand.Variants line.toList line'.toList) (Text.words line)
      (Text.words line') := by
  have hplaces := Text.words_samePlace hline
  unfold NoCapitalX at hx hx'
  generalize Text.words line = words, Text.words line' = words' at hplaces hx hx' ⊢
  induction hplaces with
  | nil => exact .nil
  | cons hplace _ ih =>
    obtain ⟨hword, hrest⟩ := List.forall_mem_cons.mp hx
    obtain ⟨hword', hrest'⟩ := List.forall_mem_cons.mp hx'
    exact .cons ⟨hplace, hword, hword'⟩ (ih hrest hrest')

theorem reading_alike {s : Session} (hresolve : s.IgnoresCase) {line line' : String}
    (hline : Text.sameName line line' = true) (hx : NoCapitalX line) (hx' : NoCapitalX line') :
    (reading s line).Alike line.toList line'.toList (reading s line') := by
  have hwords := words_variants hline hx hx'
  unfold reading call?
  rw [Text.isBlankLine_congr hline]
  by_cases hblank : Text.isBlankLine line' = true
  · simp only [hblank, if_true]
    exact .same _
  simp only [hblank, Bool.false_eq_true, if_false]
  generalize Text.words line = words, Text.words line' = words' at hwords
  cases hwords with
  | nil => exact .same _
  | @cons name name' rest rest' hname hrest =>
    have hupper := Text.sameName_iff.mp hline
    have hsame : Text.sameName name name' = true :=
      Text.sameName_iff.mpr (hname.place.map_toUpper hupper)
    simp only [builtinTable.find?_congr hsame]
    cases builtinTable.find? name' with
    | none => exact .unknown hname.place
    | some command =>
      have hread := Order.read_alike hupper hresolve hrest builtinTable.help
        (Builtin.firstName command)
      simp only
      generalize Order.read builtinTable.help s rest (Builtin.firstName command) = x,
        Order.read builtinTable.help s rest' (Builtin.firstName command) = x' at hread
      cases hread with
      | same => exact .same _
      | quoted hfault h => exact .refused hfault h

/-! ## Reports -/

/-- The reports that quote what was typed. -/
inductive Quotes : (String → String) → Prop where
  | command : Quotes fun name => "Unknown command \"" ++ name ++ "\""
  | operand {fault : String → OperandError} (h : fault ∈ OperandError.quoting) :
    Quotes fun token => "Parse error: " ++ (fault token).message

/-- The same outcome, but for a report in which each line quotes itself at the same place. -/
structure Outcome.SameButQuoted (line line' : String) (o o' : Outcome) : Prop where
  proceed : o.proceed = o'.proceed
  session : o.session = o'.session
  output : o.output = o'.output ∨ ∃ report q q', Quotes report ∧
    Text.SamePlace line.toList line'.toList q.toList q'.toList ∧
      o.output = [.error (report q)] ∧ o'.output = [.error (report q')]

/-- Two lines that differ in letter case only make the same requests, get the same answers and lead
to the same outcome, if none of their words begins with `0X`. -/
theorem letterCase_free (host : Host σ) (x : σ) {s : Session} (hresolve : s.IgnoresCase)
    {line line' : String} (hline : Text.sameName line line' = true) (hx : NoCapitalX line)
    (hx' : NoCapitalX line') :
    let c := (execute builtinTable s line).converse host x
    let c' := (execute builtinTable s line').converse host x
    c.exchanges = c'.exchanges ∧ c.host = c'.host ∧
      Outcome.SameButQuoted line line' c.value c'.value := by
  have hreading := reading_alike hresolve hline hx hx'
  rw [execute_eq, execute_eq]
  generalize reading s line = r, reading s line' = r' at hreading
  cases hreading with
  | same => exact ⟨rfl, rfl, rfl, rfl, .inl rfl⟩
  | unknown h => exact ⟨rfl, rfl, rfl, rfl, .inr ⟨_, _, _, .command, h, rfl, rfl⟩⟩
  | refused hfault h => exact ⟨rfl, rfl, rfl, rfl, .inr ⟨_, _, _, .operand hfault, h, rfl, rfl⟩⟩

/-- A dump in two spellings, with a segment register, a symbol and a number; and a segment that is
none, which each line quotes as it stands there. -/
theorem letterCase_free_dump :
    let s : Session :=
      { resolve := fun name => if Text.sameName name "main" then some 0xABC else none
        codeSize := .bits16 }
    let c (line : String) := (execute builtinTable s line).converse ScriptedHost.answer {}
    let line := "D sS:mAIN 0xFf"
    let line' := "d Ss:Main 0xfF"
    s.IgnoresCase ∧ Text.sameName line line' = true ∧ NoCapitalX line ∧ NoCapitalX line' ∧
      (c line).exchanges = (c line').exchanges ∧ (c line).host = (c line').host ∧
      Outcome.SameButQuoted line line' (c line).value (c line').value ∧
      (c line').requests = [.readMemory ⟨0, 0xABC⟩ 255] ∧
      (c "d xS:1").value.output = [.error "Parse error: Unexpected segment \"xS\""] ∧
      (c "D Xs:1").value.output = [.error "Parse error: Unexpected segment \"Xs\""] := by
  intro s c line line'
  have hresolve : s.IgnoresCase := by
    intro name name' h
    show (if Text.sameName name "main" then _ else _) = _
    rw [Text.sameName_congr h]
  have hline : Text.sameName line line' = true := by decide +kernel
  have hx : NoCapitalX line := by decide +kernel
  have hx' : NoCapitalX line' := by decide +kernel
  obtain ⟨hexchanges, hhost, hvalue⟩ :=
    letterCase_free ScriptedHost.answer {} hresolve hline hx hx'
  exact ⟨hresolve, hline, hx, hx', hexchanges, hhost, hvalue, by decide +kernel, by decide +kernel,
    by decide +kernel⟩

end DebugConsole.Console
