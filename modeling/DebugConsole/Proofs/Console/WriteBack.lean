import DebugConsole.Proofs.Command.OperandLemmas
import DebugConsole.Proofs.Console.TypedLines
import DebugConsole.Proofs.Listing.Dump

/-!
# Writing a dump back

A memory dump loses nothing: its rows can be turned into commands that write the same bytes to the
same addresses (`dump_written_back`).

- **Lines** (`writeBack`): the first word of a row is an address operand, and its bytes are byte
  operands behind a zero.
- **Steps** (`Stepped.Writes`): one request for each row, whatever the session holds.
-/

namespace DebugConsole.Console

variable {σ : Type}

/-! ## Lines -/

/-- The command that writes the bytes of a printed row back to its address. The bytes are
hexadecimal, which a zero in front tells. -/
def writeBack (row : String) : String :=
  " ".intercalate ("e" :: (Text.words row).headD "" :: (Listing.hexPairs row).map ("0" ++ ·))

theorem writeBack_memoryRow (a : Address) {row : List UInt8} (h : row.length ≤ 16) :
    writeBack (Listing.memoryRow a row) =
      " ".intercalate ("e" :: a.text :: row.map fun b => "0" ++ Text.hex 2 b.toNat) := by
  have haddress : (Text.words (Listing.memoryRow a row)).headD "" = a.text := by
    rw [List.headD_eq_head?_getD, Listing.words_memoryRow]
    rfl
  rw [writeBack, haddress, (Listing.memoryRow_shows a h).hex, List.map_map]
  rfl

/-- The command of a row asks for its bytes to be written, whatever the session holds. -/
theorem execute_writeBack (s : Session) (a : Address) {row : List UInt8} (hne : row ≠ [])
    (h : row.length ≤ 16) :
    execute builtinTable s (writeBack (Listing.memoryRow a row)) =
      Order.single s (.writeMemory a row) := by
  have hwords : ∀ word ∈ a.text :: row.map fun b => "0" ++ Text.hex 2 b.toNat,
      Text.IsWord word := by
    rw [List.forall_mem_cons, List.forall_mem_map]
    exact ⟨a.isWord_text, fun b _ => Text.isWord_zero_hex b.toNat⟩
  have hread : Order.read builtinTable.help s
      (a.text :: row.map fun b => "0" ++ Text.hex 2 b.toNat) "SetMemory" =
        .ok (.request (.writeMemory a row)) := by
    simp only [Order.read, Order.word, List.drop_zero, List.headD_cons, Operand.address_text,
      List.drop_succ_cons, Operand.bytes_hex hne]
    rfl
  have hreading : reading s (writeBack (Listing.memoryRow a row)) =
      .order (.request (.writeMemory a row)) := by
    rw [writeBack_memoryRow a h]
    exact reading_intercalate (by decide) hwords (by decide +kernel) hread
  rw [execute_eq, hreading]
  rfl

/-! ## Steps -/

/-- The bytes that a request writes. -/
def written (y : Exchange) : List UInt8 :=
  match y.request with
  | .writeMemory _ bytes => bytes
  | _ => []

/-- The step has asked for the bytes to be written at the address, and for nothing else. It leaves
the session alone, and prints nothing unless the host refuses. -/
structure Stepped.Writes (s : Session) (a : Address) (bytes : List UInt8) (t : Stepped σ) :
    Prop where
  session : t.session = s
  proceed : t.proceed = .continue
  asked : (t.exchanges = [⟨.writeMemory a bytes, .ok ()⟩] ∧ t.output = []) ∨
    ∃ e, t.exchanges = [⟨.writeMemory a bytes, .error e⟩] ∧
      t.output = [.error ("Host error: " ++ e.message)]

theorem Stepped.Writes.written_eq {s : Session} {a : Address} {bytes : List UInt8} {t : Stepped σ}
    (h : t.Writes s a bytes) : t.exchanges.flatMap written = bytes := by
  obtain ⟨hexchanges, -⟩ | ⟨e, hexchanges, -⟩ := h.asked
  · rw [hexchanges]
    exact List.append_nil bytes
  · rw [hexchanges]
    exact List.append_nil bytes

theorem flatMap_written {rows : List (Address × List UInt8)} {steps : List (Stepped σ)}
    {s : Session} (h : List.Forall₂ (fun row t => t.Writes s row.1 row.2) rows steps) :
    steps.flatMap (fun t => t.exchanges.flatMap written) = rows.flatMap (·.2) := by
  induction h with
  | nil => rfl
  | cons hrow _ ih => rw [List.flatMap_cons, List.flatMap_cons, hrow.written_eq, ih]

theorem take_writeBack (host : Host σ) (x : σ) (s : Session) (a : Address) {row : List UInt8}
    (hne : row ≠ []) (h : row.length ≤ 16) :
    (take builtinTable host s x (.line (writeBack (Listing.memoryRow a row)))).Writes s a row := by
  have hexecute := execute_writeBack s a hne h
  rcases hhost : host (.writeMemory a row) x with ⟨e | reply, x'⟩
  · rw [take_single_error hexecute hhost]
    exact ⟨rfl, rfl, .inr ⟨e, rfl, rfl⟩⟩
  · rw [take_single_ok hexecute hhost]
    exact ⟨rfl, rfl, .inl ⟨rfl, rfl⟩⟩

/-! ## Dumps -/

/-- A dump has a row for every sixteen bytes, with the last one possibly shorter, and each row shows
its address and its bytes by its columns. The commands that write the rows back report no failure of
their own, and each makes one request, to write the bytes of its row at the address of its row,
whatever the session holds. Together they write the bytes of the dump. -/
theorem dump_written_back (a : Address) (bytes : List UInt8) :
    (Listing.memory a bytes).length = (bytes.length + 15) / 16 ∧
    List.Forall₂ (fun row line => Listing.RowShows row.1 row.2 line) (Listing.dumpRows a bytes)
      (Listing.memory a bytes) ∧
    ∀ (σ : Type) (host : Host σ) (x : σ) (s : Session),
      let steps := history builtinTable host s x
        ((Listing.memory a bytes).map fun line => .line (writeBack line))
      List.Forall₂ (fun row t => t.Writes s row.1 row.2) (Listing.dumpRows a bytes) steps ∧
      steps.flatMap (fun t => t.exchanges.flatMap written) = bytes := by
  refine ⟨?_, ?_, fun σ host x s => ?_⟩
  · simp [Listing.memory_eq, Listing.dumpRows]
  · rw [Listing.memory_eq, List.forall₂_map_right_iff, List.forall₂_same]
    exact fun row hrow => Listing.memoryRow_shows row.1 (Listing.dumpRows_bounds hrow).2
  · rw [Listing.memory_eq, List.map_map]
    intro steps
    have hsteps : List.Forall₂ (fun row t => t.Writes s row.1 row.2) (Listing.dumpRows a bytes)
        steps := by
      refine history_forall₂ (fun row hrow x => ?_) x
      obtain ⟨hne, hlength⟩ := Listing.dumpRows_bounds hrow
      have hwrites := take_writeBack host x s row.1 hne hlength
      exact ⟨hwrites, hwrites.session⟩
    exact ⟨hsteps, (flatMap_written hsteps).trans (Listing.flatMap_snd_dumpRows a bytes)⟩

/-- The characters of a row may look like bytes. -/
example : writeBack (Listing.memoryRow ⟨0x10, 0x08⟩ [0x2D, 0x33, 0x41]) =
    "e 0010:00000008 02D 033 041" := by decide +kernel

end DebugConsole.Console
