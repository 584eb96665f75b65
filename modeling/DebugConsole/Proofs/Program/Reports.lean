import Mathlib.Data.List.Basic
import DebugConsole.Program

/-!
# How a failed start is told

A failed start is told by the step that failed and what it failed of (`report_eq`).

- **Steps** (`headline`, `causes`): the words for every fault of every step.
- **Layout** (`hang`, `causeText`): causes stand behind a mark, one a line, and further lines of a
  cause are indented as far as the first one.
-/

namespace DebugConsole.StartError

/-! ## Steps -/

/-- The message that names the step which failed. -/
def headline : StartError → String
  | .config (.badBus value) =>
    "DEBUGBOX_BUS: expected `session` or `system`, got \"" ++ value ++ "\""
  | .config (.badHistory value _) => "DEBUGBOX_HISTORY: bad line count \"" ++ value ++ "\""
  | .config .emptyHistory => "DEBUGBOX_HISTORY: must be at least 1"
  | .config (.badCodeSize value) => "DEBUGBOX_BITNESS: expected 16 or 32, got \"" ++ value ++ "\""
  | .logFile path _ => "creating log file " ++ path
  | .bus _ => "connecting to D-Bus"
  | .service name _ => "creating proxy for " ++ name
  | .symbols (.unreadable path _) => "reading symbols from " ++ path
  | .symbols (.malformed path _) => "parsing " ++ path

/-- What the step failed of, outermost first. -/
def causes : StartError → List String
  | .config (.badHistory _ cause) => [cause.message]
  | .config _ => []
  | .logFile _ cause => [cause.message]
  | .bus causes => causes
  | .service _ fault => [fault.message, fault.message]
  | .symbols (.unreadable _ cause) => [cause.message]
  | .symbols (.malformed _ ⟨line, .fieldCount⟩) =>
    ["line " ++ toString line ++ ": expected `name offset`"]
  | .symbols (.malformed _ ⟨line, .badOffset offset cause⟩) =>
    ["line " ++ toString line ++ ": bad offset \"" ++ offset ++ "\"", cause.message]

theorem chain_eq (e : StartError) : e.chain = e.headline :: e.causes := by
  cases e with
  | config cause => cases cause <;> rfl
  | logFile path cause => rfl
  | bus causes => rfl
  | service name fault => rfl
  | symbols cause =>
    cases cause with
    | unreadable path cause => rfl
    | malformed path cause =>
      obtain ⟨line, fault⟩ := cause
      cases fault with
      | fieldCount =>
        have hwords : ": expected `name offset`" = ": " ++ "expected `name offset`" := by decide
        simp only [causes, hwords, ← String.append_assoc]
        rfl
      | badOffset offset cause =>
        have hwords : ": bad offset \"" = ": " ++ "bad offset \"" := by decide
        simp only [causes, hwords, ← String.append_assoc]
        rfl

/-! ## Layout -/

/-- A text behind a mark, with each further line indented as far. -/
def hang (mark text : String) : String :=
  mark ++ .ofList (text.toList.flatMap fun c =>
    if c = '\n' then '\n' :: List.replicate mark.length ' ' else [c])

theorem intercalate_splitOnP (separator : List Char) (text : List Char) :
    separator.intercalate (text.splitOnP (· == '\n')) =
      text.flatMap fun c => if c = '\n' then separator else [c] := by
  induction text with
  | nil => rfl
  | cons c rest ih =>
    rw [List.splitOnP_cons_eq_if_modifyHead, List.flatMap_cons, ← ih]
    obtain ⟨first, others, hpieces⟩ :=
      List.exists_cons_of_ne_nil (List.splitOnP_ne_nil (· == '\n') rest)
    by_cases hc : c = '\n'
    · simp [hc, hpieces, List.intercalate_cons_cons]
    · simp [hc, hpieces]

theorem indented_eq_hang (mark text : String) : indented mark text = hang mark text := by
  rw [indented, hang, ← intercalate_splitOnP, ← String.toList_inj]
  simp

/-- The causes of a failed start, under a heading: a single one is indented, several are numbered
from zero, with the numbers as far to the right as five characters allow. -/
def causeText : List String → String
  | [] => ""
  | [cause] => "\nCaused by:\n" ++ hang "    " cause ++ "\n"
  | causes => "\nCaused by:\n" ++ String.join (causes.mapIdx fun i cause =>
      hang (.ofList (List.leftpad 5 ' ' (toString i).toList) ++ ": ") cause ++ "\n")

/-- The call stack of a failed start, under a heading. -/
def stackText (stack : Option String) : String :=
  stack.elim "" fun stack => "\nStack backtrace:\n" ++ stack ++ "\n"

theorem join_causeLines (cause : String) (rest : List String) :
    String.join ((["", "Caused by:"] ++ causeLines (cause :: rest)).map (· ++ "\n")) =
      causeText (cause :: rest) := by
  have hheading (lines : List String) :
      String.join ((["", "Caused by:"] ++ lines).map (· ++ "\n")) =
        "\nCaused by:\n" ++ String.join (lines.map (· ++ "\n")) := by
    rw [List.map_append, String.join_append]
    rfl
  rw [hheading]
  cases rest with
  | nil => simp [causeLines, causeText, indented_eq_hang, String.append_assoc]
  | cons next rest =>
    have hmark (number : String) :
        String.ofList (List.replicate (5 - number.length) ' ') ++ number ++ ": " =
          .ofList (List.leftpad 5 ' ' number.toList) ++ ": " := by
      rw [← String.toList_inj]
      simp [List.leftpad, ← String.length_toList]
    simp only [causeLines, causeText, List.mapIdx_eq_zipIdx_map, List.map_map, Function.comp_def,
      indented_eq_hang, hmark]

theorem join_stackLines (stack : Option String) :
    String.join ((stack.elim [] fun stack => ["", "Stack backtrace:", stack]).map (· ++ "\n")) =
      stackText stack := by
  cases stack with
  | none => rfl
  | some stack =>
    rw [← String.toList_inj]
    simp [stackText]

/-- The step that failed comes first, then its causes, then the call stack if there is one. -/
theorem report_eq (e : StartError) (stack : Option String) :
    e.report stack = "Error: " ++ e.headline ++ "\n" ++ causeText e.causes ++ stackText stack := by
  rw [report, e.chain_eq, ← join_stackLines]
  cases e.causes with
  | nil => simp [causeText]
  | cons cause rest =>
    rw [← join_causeLines]
    simp [String.join_append, String.append_assoc]

end DebugConsole.StartError
