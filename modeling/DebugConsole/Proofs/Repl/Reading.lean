import DebugConsole.Proofs.Text.Pieces
import DebugConsole.Repl
import Mathlib.Data.List.DropRight

/-!
# Reading line by line

The reader decodes each line on its own. That is as good as decoding the whole input and parting the
text into lines (`Event.ofInput_eq_ofText`), since a line feed is never part of anything else.

- **Line feeds** (`decodeLossy_lineFeed`): decoding goes on behind a line feed as if nothing had
  been in front of it, and no other byte is decoded as one (`lineFeed_not_mem_decodeLossy`).
- **Lines of text and of bytes** (`Text.lines_line`, `splitLines_line`): a line feed ends the first
  line. `line_induction` goes through the lines of a byte sequence.
- **Lines as they are sent** (`linesOf_clean`, `linesOf_broken`): the lines of the bytes are those
  of the text, without carriage returns at their ends.
- **Chunks** (`readOn_nil`): reading chunk by chunk, with what is left of a line kept for the next
  one, gives the same lines.
-/

namespace DebugConsole

/-! ## Line feeds -/

namespace Utf8

theorem all_low_start : ∀ n < 0x100,
    ((start (UInt8.ofNat n)).2.all fun p => 0x80 ≤ p.low) = true := by
  decide +kernel

theorem le_low_of_start {b : UInt8} {p : Pending} (h : (start b).2 = some p) : 0x80 ≤ p.low := by
  have hall := all_low_start b.toNat b.toNat_lt
  rw [UInt8.ofNat_toNat, h] at hall
  simpa using hall

theorem le_low_of_step {pending : Option Pending} {b : UInt8} {p : Pending}
    (h : (step pending b).2 = some p) : 0x80 ≤ p.low := by
  cases pending with
  | none => exact le_low_of_start h
  | some q =>
    simp only [step] at h
    split at h
    · split at h
      · simp at h
      · rw [Option.some.injEq] at h
        rw [← h]
        exact UInt8.le_refl 0x80
    · exact le_low_of_start h

theorem scanFrom_lineFeed {pending : Option Pending} (hlow : ∀ p, pending = some p → 0x80 ≤ p.low)
    (before after : List UInt8) :
    scanFrom pending (before ++ Input.lineFeed :: after) =
      scanFrom pending before ++ some '\n' :: scan after := by
  induction before generalizing pending with
  | nil =>
    cases pending with
    | none => rfl
    | some p =>
      -- No character goes on with a byte below 0x80.
      have hrefuse : ¬ (p.low ≤ Input.lineFeed && Input.lineFeed ≤ p.high) = true := by
        have h := hlow p rfl
        rw [UInt8.le_iff_toNat_le] at h
        simp only [Bool.and_eq_true, decide_eq_true_eq, UInt8.le_iff_toNat_le, not_and]
        intro h'
        exact absurd (Nat.le_trans h h') (by decide)
      rw [List.nil_append, scanFrom_cons]
      simp only [step, hrefuse]
      rfl
  | cons b before ih =>
    rw [List.cons_append, scanFrom_cons, scanFrom_cons, ih fun p hp => le_low_of_step hp,
      List.append_assoc]

theorem toList_decodeLossy (bytes : List UInt8) :
    (decodeLossy bytes).toList = (scan bytes).map (·.getD '\uFFFD') :=
  String.toList_ofList

/-- A line feed is decoded as itself, whatever is in front of it or behind it. -/
theorem decodeLossy_lineFeed (before after : List UInt8) :
    decodeLossy (before ++ Input.lineFeed :: after) =
      decodeLossy before ++ "\n" ++ decodeLossy after := by
  rw [← String.toList_inj]
  simp only [String.toList_append, toList_decodeLossy]
  unfold scan
  rw [scanFrom_lineFeed (by simp)]
  simp [scan]

theorem Pieces.subset {bytes : List UInt8} {pieces : List (Option Char)} (h : Pieces bytes pieces)
    {c : Char} (hc : some c ∈ pieces) : String.utf8EncodeChar c ⊆ bytes := by
  induction h with
  | nil => cases hc
  | character c' h ih =>
    rcases List.mem_cons.mp hc with heq | hrest
    · cases heq
      exact List.subset_append_left ..
    · exact List.subset_append_of_subset_right _ (ih hrest)
  | malformed hpiece h ih =>
    rcases List.mem_cons.mp hc with heq | hrest
    · cases heq
    · exact List.subset_append_of_subset_right _ (ih hrest)

/-- No other byte is decoded as a line feed. -/
theorem lineFeed_not_mem_decodeLossy {bytes : List UInt8} (h : Input.lineFeed ∉ bytes) :
    '\n' ∉ (decodeLossy bytes).toList := by
  rw [toList_decodeLossy, List.mem_map]
  rintro ⟨piece, hpiece, hvalue⟩
  cases piece with
  | none => exact absurd hvalue (by decide)
  | some c =>
    obtain rfl : c = '\n' := hvalue
    exact h ((pieces_scan bytes).subset hpiece (by decide))

end Utf8

/-! ## Lines of text -/

namespace Text

/-- The pieces of a text between line feeds, without an empty last one. -/
theorem lines_eq (s : String) :
    lines s = ((s.toList.splitOnP (· == '\n')).dropLast ++
      ((s.toList.splitOnP (· == '\n')).getLast?.toList.filter (!·.isEmpty))).map String.ofList := by
  unfold lines
  have hne : s.toList.splitOnP (· == '\n') ≠ [] := List.splitOnP_ne_nil _ _
  obtain ⟨before, last, hpieces⟩ := (List.eq_nil_or_concat' _).resolve_left hne
  rw [hpieces]
  cases last with
  | nil => simp
  | cons c last => simp

/-- A text without line feeds is one line, if it is not empty. -/
theorem lines_of_not_mem {s : String} (hne : s ≠ "") (h : '\n' ∉ s.toList) : lines s = [s] := by
  have hsplit : s.toList.splitOnP (· == '\n') = [s.toList] :=
    List.splitOnP_eq_singleton fun c hc => by
      simpa using fun (heq : c = '\n') => h (heq ▸ hc)
  rw [lines_eq, hsplit]
  simp [hne]

/-- A line feed ends the first line. -/
theorem lines_line {s : String} (h : '\n' ∉ s.toList) (t : String) :
    lines (s ++ "\n" ++ t) = s :: lines t := by
  have hne : t.toList.splitOnP (· == '\n') ≠ [] := List.splitOnP_ne_nil _ _
  have hsplit : (s ++ "\n" ++ t).toList.splitOnP (· == '\n') =
      s.toList :: t.toList.splitOnP (· == '\n') := by
    rw [String.toList_append, String.toList_append, List.append_assoc]
    exact List.splitOnP_append_cons_of_forall_mem
      (fun c hc => by simpa using fun (heq : c = '\n') => h (heq ▸ hc)) '\n' rfl _
  rw [lines_eq, lines_eq, hsplit, List.dropLast_cons_of_ne_nil hne,
    List.getLast?_cons_of_ne_nil hne]
  simp

/-- A line that does not end with a carriage return stays as it is. -/
theorem trimEnd_of_getLast?_ne {s : String} (h : s.toList.getLast? ≠ some '\r') :
    trimEnd (· = '\r') s = s := by
  rw [trimEnd, dropEndWhile, ← String.toList_inj, String.toList_ofList]
  rw [← List.head?_reverse] at h
  cases hreverse : s.toList.reverse with
  | nil => simpa using hreverse.symm
  | cons c rest =>
    have hc : c ≠ '\r' := by simpa [hreverse] using h
    rw [List.dropWhile_cons_of_neg (by simpa using hc), ← hreverse, List.reverse_reverse]

end Text

/-! ## Lines of bytes -/

namespace Input

/-- The lines of a byte sequence, one after the other, up to what no line feed ends. -/
theorem line_induction {P : List UInt8 → Prop} (last : ∀ bytes, lineFeed ∉ bytes → P bytes)
    (line : ∀ bytes rest, lineFeed ∉ bytes → P rest → P (bytes ++ lineFeed :: rest)) :
    ∀ bytes, P bytes := by
  intro bytes
  generalize hn : bytes.length = n
  induction n using Nat.strongRecOn generalizing bytes with
  | ind n ih =>
    by_cases h : lineFeed ∈ bytes
    · obtain ⟨before, after, rfl, hbefore⟩ := List.eq_append_cons_of_mem h
      refine line before after hbefore (ih after.length ?_ after rfl)
      rw [← hn, List.length_append, List.length_cons]
      omega
    · exact last bytes h

theorem splitLines_of_not_mem {bytes : List UInt8} (h : lineFeed ∉ bytes) :
    splitLines bytes = ([], bytes) := by
  induction bytes with
  | nil => rfl
  | cons b rest ih =>
    rw [List.mem_cons, not_or] at h
    simp only [splitLines, ih h.2, if_neg (Ne.symm h.1)]

/-- A line feed ends the first line. -/
theorem splitLines_line {bytes : List UInt8} (h : lineFeed ∉ bytes) (rest : List UInt8) :
    splitLines (bytes ++ lineFeed :: rest) =
      ((bytes ++ [lineFeed]) :: (splitLines rest).1, (splitLines rest).2) := by
  induction bytes with
  | nil => simp [splitLines]
  | cons b bytes ih =>
    rw [List.mem_cons, not_or] at h
    simp only [List.cons_append, splitLines, ih h.2, if_neg (Ne.symm h.1)]

/-- Splitting goes on with what no line feed has ended yet. -/
theorem splitLines_append (bytes more : List UInt8) :
    splitLines (bytes ++ more) =
      ((splitLines bytes).1 ++ (splitLines ((splitLines bytes).2 ++ more)).1,
        (splitLines ((splitLines bytes).2 ++ more)).2) := by
  induction bytes using line_induction with
  | last bytes h => simp [splitLines_of_not_mem h]
  | line bytes rest h ih => simp [splitLines_line h, ih]

theorem lineFeed_not_mem_pending (bytes : List UInt8) : lineFeed ∉ (splitLines bytes).2 := by
  induction bytes using line_induction with
  | last bytes h => rwa [splitLines_of_not_mem h]
  | line bytes rest h ih => rwa [splitLines_line h]

/-! ## Lines as they are sent -/

/-- The lines of a text, without the carriage returns at their ends. What stands behind the last line
feed is a line if it is not empty (`Text.lines_eq`), so there is none in an empty text. -/
def textLines (text : String) : List String :=
  (Text.lines text).map (Text.trimEnd (· = '\r'))

theorem dropWhile_congr {p q : Char → Bool} {cs : List Char} (h : ∀ c ∈ cs, p c = q c) :
    cs.dropWhile p = cs.dropWhile q := by
  induction cs with
  | nil => rfl
  | cons c rest ih =>
    rw [List.forall_mem_cons] at h
    rw [List.dropWhile_cons, List.dropWhile_cons, h.1, ih h.2]

theorem trimEnd_of_not_mem {s : String} (h : '\n' ∉ s.toList) :
    Text.trimEnd (fun c => c = '\n' || c = '\r') s = Text.trimEnd (· = '\r') s := by
  have hdrops : ∀ c ∈ s.toList.reverse,
      (decide (c = '\n') || decide (c = '\r')) = decide (c = '\r') := by
    intro c hc
    have hne : c ≠ '\n' := fun heq => h (heq ▸ List.mem_reverse.mp hc)
    simp [hne]
  simp only [Text.trimEnd, Text.dropEndWhile, dropWhile_congr hdrops]

theorem trimEnd_lineFeed (s : String) :
    Text.trimEnd (fun c => c = '\n' || c = '\r') (s ++ "\n") =
      Text.trimEnd (fun c => c = '\n' || c = '\r') s := by
  simp [Text.trimEnd, Text.dropEndWhile]

theorem lineText_of_not_mem {bytes : List UInt8} (h : lineFeed ∉ bytes) :
    lineText bytes = Text.trimEnd (· = '\r') (Utf8.decodeLossy bytes) :=
  trimEnd_of_not_mem (Utf8.lineFeed_not_mem_decodeLossy h)

theorem lineText_line {bytes : List UInt8} (h : lineFeed ∉ bytes) :
    lineText (bytes ++ [lineFeed]) = Text.trimEnd (· = '\r') (Utf8.decodeLossy bytes) := by
  have hdecode : Utf8.decodeLossy (bytes ++ [lineFeed]) = Utf8.decodeLossy bytes ++ "\n" := by
    rw [Utf8.decodeLossy_lineFeed]
    exact String.append_empty
  rw [lineText, hdecode, trimEnd_lineFeed]
  exact lineText_of_not_mem h

theorem decodeLossy_ne_empty {bytes : List UInt8} (h : bytes ≠ []) :
    Utf8.decodeLossy bytes ≠ "" := by
  obtain ⟨b, rest, rfl⟩ := List.exists_cons_of_ne_nil h
  intro hempty
  rw [← String.toList_inj, Utf8.toList_decodeLossy] at hempty
  cases Utf8.scan_front b rest with
  | character c behind hbytes hscan => simp [hscan] at hempty
  | malformed piece behind hbytes hpiece hscan => simp [hscan] at hempty

theorem textLines_line {bytes : List UInt8} (h : lineFeed ∉ bytes) (rest : List UInt8) :
    textLines (Utf8.decodeLossy (bytes ++ lineFeed :: rest)) =
      lineText (bytes ++ [lineFeed]) :: textLines (Utf8.decodeLossy rest) := by
  rw [textLines, Utf8.decodeLossy_lineFeed, Text.lines_line (Utf8.lineFeed_not_mem_decodeLossy h),
    lineText_line h]
  rfl

theorem textLines_of_not_mem {bytes : List UInt8} (hne : bytes ≠ []) (h : lineFeed ∉ bytes) :
    textLines (Utf8.decodeLossy bytes) = [lineText bytes] := by
  have hline := Text.lines_of_not_mem (decodeLossy_ne_empty hne) (Utf8.lineFeed_not_mem_decodeLossy h)
  rw [textLines, hline, lineText_of_not_mem h]
  rfl

theorem textLines_lineFeed (before after : List UInt8) :
    textLines (Utf8.decodeLossy (before ++ lineFeed :: after)) =
      textLines (Utf8.decodeLossy (before ++ [lineFeed])) ++
        textLines (Utf8.decodeLossy after) := by
  induction before using line_induction with
  | last bytes h =>
    rw [textLines_line h, textLines_line h]
    rfl
  | line bytes rest h ih =>
    rw [List.append_assoc, List.append_assoc, List.cons_append, List.cons_append, textLines_line h,
      textLines_line h, ih]
    rfl

/-- The lines of some bytes, behind which the input ends cleanly or not. -/
def linesOf (bytes : List UInt8) (clean : Bool) : List String :=
  ((splitLines bytes).1 ++
    if clean && !(splitLines bytes).2.isEmpty then [(splitLines bytes).2] else []).map lineText

theorem lines_eq (input : List Chunk) :
    lines input = linesOf (contents input).1 (contents input).2 :=
  rfl

theorem linesOf_append (bytes more : List UInt8) (clean : Bool) :
    linesOf (bytes ++ more) clean =
      (splitLines bytes).1.map lineText ++ linesOf ((splitLines bytes).2 ++ more) clean := by
  simp only [linesOf, splitLines_append bytes more, List.append_assoc, List.map_append]

theorem linesOf_line {bytes : List UInt8} (h : lineFeed ∉ bytes) (rest : List UInt8)
    (clean : Bool) : linesOf (bytes ++ lineFeed :: rest) clean =
      lineText (bytes ++ [lineFeed]) :: linesOf rest clean := by
  simp only [linesOf, splitLines_line h, List.cons_append, List.map_cons]

theorem linesOf_of_not_mem {bytes : List UInt8} (h : lineFeed ∉ bytes) (clean : Bool) :
    linesOf bytes clean = if clean && !bytes.isEmpty then [lineText bytes] else [] := by
  simp only [linesOf, splitLines_of_not_mem h, List.nil_append]
  split <;> rfl

theorem linesOf_clean (bytes : List UInt8) :
    linesOf bytes true = textLines (Utf8.decodeLossy bytes) := by
  induction bytes using line_induction with
  | last bytes h =>
    rw [linesOf_of_not_mem h]
    by_cases hne : bytes = []
    · rw [hne]
      rfl
    · rw [textLines_of_not_mem hne h]
      simp [hne]
  | line bytes rest h ih => rw [linesOf_line h, textLines_line h, ih]

/-- The bytes up to the last line feed. -/
def throughLineFeed (bytes : List UInt8) : List UInt8 :=
  bytes.rdropWhile (· != lineFeed)

theorem throughLineFeed_of_not_mem {bytes : List UInt8} (h : lineFeed ∉ bytes) :
    throughLineFeed bytes = [] := by
  refine List.rdropWhile_eq_nil_iff.mpr fun b hb => ?_
  simpa using fun (heq : b = lineFeed) => h (heq ▸ hb)

theorem throughLineFeed_line (bytes rest : List UInt8) :
    throughLineFeed (bytes ++ lineFeed :: rest) = bytes ++ lineFeed :: throughLineFeed rest := by
  simp only [throughLineFeed, List.rdropWhile, List.reverse_append, List.reverse_cons,
    List.append_assoc, List.dropWhile_append]
  split
  · next hall =>
    rw [List.isEmpty_iff.mp hall]
    simp
  · simp

/-- Where reading fails, what stands behind the last line feed is lost. -/
theorem linesOf_broken (bytes : List UInt8) :
    linesOf bytes false = textLines (Utf8.decodeLossy (throughLineFeed bytes)) := by
  induction bytes using line_induction with
  | last bytes h =>
    rw [linesOf_of_not_mem h, throughLineFeed_of_not_mem h]
    rfl
  | line bytes rest h ih => rw [linesOf_line h, throughLineFeed_line, textLines_line h, ih]

/-! ## Chunks -/

theorem contents_bytes (chunks : List (List UInt8)) :
    contents (chunks.map .bytes) = (chunks.flatten, true) := by
  induction chunks with
  | nil => rfl
  | cons bytes rest ih => simp [contents, ih]

theorem contents_fault (chunks : List (List UInt8)) (rest : List Chunk) :
    contents (chunks.map .bytes ++ .fault :: rest) = (chunks.flatten, false) := by
  induction chunks with
  | nil => rfl
  | cons bytes chunks ih => simp [contents, ih]

/-- The lines of an input, read chunk by chunk: what a chunk leaves of a line is kept for the next
one. -/
def readOn (pending : List UInt8) : List Chunk → List String
  | [] => if pending.isEmpty then [] else [lineText pending]
  | .bytes bytes :: rest =>
    (splitLines (pending ++ bytes)).1.map lineText ++ readOn (splitLines (pending ++ bytes)).2 rest
  | .fault :: _ => []

theorem readOn_eq {pending : List UInt8} (h : lineFeed ∉ pending) (input : List Chunk) :
    readOn pending input = linesOf (pending ++ (contents input).1) (contents input).2 := by
  induction input generalizing pending with
  | nil => simp [readOn, contents, linesOf_of_not_mem h]
  | cons chunk rest ih =>
    cases chunk with
    | fault => simp [readOn, contents, linesOf_of_not_mem h]
    | bytes bytes =>
      rw [readOn, ih (lineFeed_not_mem_pending _), ← linesOf_append, List.append_assoc]
      rfl

/-- Where the chunks end makes no difference. -/
theorem readOn_nil (input : List Chunk) : readOn [] input = lines input :=
  readOn_eq List.not_mem_nil input

theorem lines_bytes (chunks : List (List UInt8)) :
    lines (chunks.map .bytes) = textLines (Utf8.decodeLossy chunks.flatten) := by
  rw [lines_eq, contents_bytes, linesOf_clean]

theorem lines_fault (chunks : List (List UInt8)) (rest : List Chunk) :
    lines (chunks.map .bytes ++ .fault :: rest) =
      textLines (Utf8.decodeLossy (throughLineFeed chunks.flatten)) := by
  rw [lines_eq, contents_fault, linesOf_broken]

/-- The lines up to a line feed and those behind it have nothing to do with each other. -/
theorem lines_lineFeed (before after : List UInt8) :
    lines [.bytes (before ++ lineFeed :: after)] =
      lines [.bytes (before ++ [lineFeed])] ++ lines [.bytes after] := by
  have hone (bytes : List UInt8) : lines [.bytes bytes] = textLines (Utf8.decodeLossy bytes) := by
    have := lines_bytes [bytes]
    rwa [List.flatten_singleton] at this
  rw [hone, hone, hone, textLines_lineFeed]

end Input

/-- The events that a text gives: its lines, then the end of the input. -/
def Event.ofText (text : String) : List Event :=
  (Input.textLines text).map .line ++ [.endOfInput]

/-- Reading an input gives the events of its text, decoded as a whole with one U+FFFD for each
malformed piece: of all of it if it ends cleanly, and of what stands up to the last line feed if
reading fails behind some chunks. It makes no difference where the chunks end or what stands on the
other side of a line feed, and no line feed is swallowed. -/
theorem Event.ofInput_eq_ofText (chunks : List (List UInt8)) (rest : List Chunk) :
    (∀ bytes text, Utf8.Lossy bytes text ↔ text = Utf8.decodeLossy bytes) ∧
    ofInput (chunks.map .bytes) = ofText (Utf8.decodeLossy chunks.flatten) ∧
    ofInput (chunks.map .bytes ++ .fault :: rest) =
      ofText (Utf8.decodeLossy (Input.throughLineFeed chunks.flatten)) ∧
    (∀ input, ofInput input = (Input.readOn [] input).map .line ++ [.endOfInput]) ∧
    (∀ before after, Input.lines [.bytes (before ++ Input.lineFeed :: after)] =
      Input.lines [.bytes (before ++ [Input.lineFeed])] ++ Input.lines [.bytes after]) ∧
    ∀ before after, Utf8.decodeLossy (before ++ Input.lineFeed :: after) =
      Utf8.decodeLossy before ++ "\n" ++ Utf8.decodeLossy after := by
  refine ⟨fun _ _ => Utf8.lossy_iff, ?_, ?_, fun input => ?_, Input.lines_lineFeed,
    Utf8.decodeLossy_lineFeed⟩
  · rw [ofInput, Input.lines_bytes]
    rfl
  · rw [ofInput, Input.lines_fault]
    rfl
  · rw [ofInput, Input.readOn_nil]

/-- A truncated character in front of a line feed, and a line that a fault cuts off. -/
example : Event.ofInput [.bytes [0xE2, 0x82], .bytes [0x0D, 0x0A, 0x61], .fault] =
    [.line "\uFFFD", .endOfInput] := by
  decide

end DebugConsole
