import DebugConsole.Proofs.Repl.Reading

/-!
# Writing lines

Reading undoes writing: lines that are written one after the other are read as they were
(`Event.ofInput_written`).

- **Writing** (`WritesLines`): each line with an ending of its own, and no ending needed at the last
  one.
- **Bytes** (`Utf8.decodeLossy_encode`): an encoded text is decoded as it was.
- **Lines** (`Input.textLines_written`): each ending is taken off, and nothing else.
-/

namespace DebugConsole

/-! ## Writing -/

/-- What ends a line. -/
inductive LineEnding where
  | lineFeed | returnLineFeed
  deriving DecidableEq, Repr

/-- The characters that end a line. -/
def LineEnding.text : LineEnding → String
  | .lineFeed => "\n"
  | .returnLineFeed => "\r\n"

/-- The texts that can be lines: the ending of a line is no part of it. -/
structure IsLine (line : String) : Prop where
  no_lineFeed : '\n' ∉ line.toList
  no_return : line.toList.getLast? ≠ some '\r'

instance (line : String) : Decidable (IsLine line) :=
  decidable_of_iff ('\n' ∉ line.toList ∧ line.toList.getLast? ≠ some '\r')
    ⟨fun h => ⟨h.1, h.2⟩, fun h => ⟨h.no_lineFeed, h.no_return⟩⟩

/-- A text that writes lines: each of them ends with one of the endings, but what stands behind the
last ending is a line as well, if it is not empty. -/
inductive WritesLines : List String → String → Prop where
  | nil : WritesLines [] ""
  | last {line : String} (hne : line ≠ "") : WritesLines [line] line
  | line {rest : List String} {text : String} (line : String) (ending : LineEnding)
    (h : WritesLines rest text) : WritesLines (line :: rest) (line ++ ending.text ++ text)

/-! ## Bytes -/

theorem Utf8.decodeLossy_encode (s : String) : decodeLossy (encode s) = s := by
  rw [← String.toList_inj, toList_decodeLossy, scan_encode, List.map_map]
  exact List.map_id _

/-! ## Lines -/

namespace Input

theorem trimEnd_return (s : String) :
    Text.trimEnd (· = '\r') (s ++ "\r") = Text.trimEnd (· = '\r') s := by
  simp [Text.trimEnd, Text.dropEndWhile]

/-- A written line is the first one that is read. -/
theorem textLines_ending {line : String} (h : IsLine line) (ending : LineEnding) (text : String) :
    textLines (line ++ ending.text ++ text) = line :: textLines text := by
  have htrim : Text.trimEnd (· = '\r') line = line := Text.trimEnd_of_getLast?_ne h.no_return
  cases ending with
  | lineFeed =>
    rw [textLines, LineEnding.text, Text.lines_line h.no_lineFeed, List.map_cons, htrim]
    rfl
  | returnLineFeed =>
    have hreturn : '\n' ∉ (line ++ "\r").toList := by simp [h.no_lineFeed]
    have htext : line ++ "\r\n" ++ text = (line ++ "\r") ++ "\n" ++ text := by
      rw [← String.toList_inj]
      simp
    rw [textLines, LineEnding.text, htext, Text.lines_line hreturn, List.map_cons, trimEnd_return,
      htrim]
    rfl

/-- What is written is read, line by line. -/
theorem textLines_written {lines : List String} {text : String} (h : WritesLines lines text)
    (hlines : ∀ line ∈ lines, IsLine line) : textLines text = lines := by
  induction h with
  | nil => decide
  | @last line hne =>
    have hline : IsLine line := hlines line (List.mem_singleton_self line)
    rw [textLines, Text.lines_of_not_mem hne hline.no_lineFeed, List.map_singleton,
      Text.trimEnd_of_getLast?_ne hline.no_return]
  | line line ending h ih =>
    obtain ⟨hline, hrest⟩ := List.forall_mem_cons.mp hlines
    rw [textLines_ending hline, ih hrest]

end Input

/-- Lines that are written with any endings are read as they were, empty ones included, and then the
end of the input, wherever the chunks of their bytes end. -/
theorem Event.ofInput_written {lines : List String} {text : String}
    (hlines : ∀ line ∈ lines, IsLine line) (h : WritesLines lines text) {chunks : List (List UInt8)}
    (hchunks : chunks.flatten = Utf8.encode text) :
    ofInput (chunks.map .bytes) = lines.map .line ++ [.endOfInput] := by
  rw [ofInput, Input.lines_bytes, hchunks, Utf8.decodeLossy_encode,
    Input.textLines_written h hlines]

/-- Mixed endings, an empty line, a carriage return inside a line, a last line without ending, and
chunks that end inside a character and between the two characters of an ending. -/
theorem Event.ofInput_written_mixed :
    let lines := ["a\rb", "", "€"]
    let text := "a\rb\r\n\n€"
    let chunks : List (List UInt8) := [[0x61, 0x0D, 0x62, 0x0D], [0x0A, 0x0A, 0xE2], [0x82, 0xAC]]
    (∀ line ∈ lines, IsLine line) ∧ WritesLines lines text ∧ chunks.flatten = Utf8.encode text ∧
      ofInput (chunks.map .bytes) = [.line "a\rb", .line "", .line "€", .endOfInput] := by
  intro lines text chunks
  have hlines : ∀ line ∈ lines, IsLine line := by decide
  have hwrites : WritesLines lines text :=
    .line "a\rb" .returnLineFeed (.line "" .lineFeed (.last (by decide)))
  have hchunks : chunks.flatten = Utf8.encode text := by decide +kernel
  exact ⟨hlines, hwrites, hchunks, ofInput_written hlines hwrites hchunks⟩

end DebugConsole
