import DebugConsole.Proofs.Command.Bytes
import DebugConsole.Proofs.Console.FailedLines
import DebugConsole.Proofs.Console.TypedLines

/-!
# Byte lists

Bytes arrive whole or not at all: a line that writes or searches bytes makes one request with all of
them, or none at all and reports the first of its words that is wrong (`byte_lists_whole`).

A line whose words are read as a request makes that request, and one whose words are not makes none
(`allOrNothing_of_read`).
-/

namespace DebugConsole

open Operand

variable {σ : Type}

/-- A line makes one request, or none at all and reports what is wrong. -/
structure Conversation.AllOrNothing (c : Conversation σ Outcome) (s : Session) (x : σ)
    (Asks : Request → Prop) (Fault : OperandError → Prop) : Prop where
  asked (r : Request) : c.requests = [r] ↔ Asks r
  refused (e : OperandError) (h : Fault e) :
    c.Untouched s x ∧ c.value.output = [.error ("Parse error: " ++ e.message)]
  decided : (∃ r, Asks r) ∨ ∃ e, Fault e

namespace Console

variable {host : Host σ} {x : σ} {s : Session} {line name first : String} {words : List String}

/-- A line is as its words are read. -/
theorem allOrNothing_of_read {Asks : Request → Prop} {Fault : OperandError → Prop}
    (hname : CommandTable.isName name = true) (hwords : Text.words line = name :: words)
    (hfind : (builtinTable.find? name).map Builtin.firstName = some first)
    (hok : ∀ o, Order.read builtinTable.help s words first = .ok o ↔ ∃ r, Asks r ∧ o = .request r)
    (herror : ∀ e, Order.read builtinTable.help s words first = .error e ↔ Fault e) :
    ((execute builtinTable s line).converse host x).AllOrNothing s x Asks Fault := by
  rw [execute_of_words hname hwords hfind]
  cases hread : Order.read builtinTable.help s words first with
  | error e =>
    have hnone (r : Request) : ¬ Asks r := fun hr => by
      cases hread.symm.trans ((hok _).mpr ⟨r, hr, rfl⟩)
    refine ⟨fun r => ?_, fun e' he' => ?_, .inr ⟨e, (herror e).mp hread⟩⟩
    · constructor
      · rintro ⟨⟩
      · exact fun hr => absurd hr (hnone r)
    · cases hread.symm.trans ((herror e').mpr he')
      exact ⟨⟨rfl, rfl, rfl⟩, rfl⟩
  | ok o =>
    obtain ⟨r, hr, rfl⟩ := (hok o).mp hread
    refine ⟨fun r' => ?_, fun e he => ?_, .inl ⟨r, hr⟩⟩
    · simp only [whenRead, Order.dialogue, requests_single, List.cons.injEq, and_true]
      constructor
      · rintro rfl
        exact hr
      · intro hr'
        cases hread.symm.trans ((hok _).mpr ⟨r', hr', rfl⟩)
        rfl
    · cases hread.symm.trans ((herror e).mpr he)

/-- A line that writes or searches bytes makes one request with all of them, in order, or none at
all. It is none if a word is wrong, and the first that is wrong is reported: the address, the length
to search, then the bytes, of which there must be one. -/
theorem byte_lists_whole (host : Host σ) (x : σ) (s : Session) (line token : String)
    (tokens : List String) :
    let c := (execute builtinTable s line).converse host x
    (Text.words line = "e" :: token :: tokens →
      c.AllOrNothing s x (Writes s token tokens) (WriteFault s token tokens)) ∧
    ∀ length : String, Text.words line = "s" :: token :: length :: tokens →
      c.AllOrNothing s x (Searches s token length tokens) (SearchFault s token length tokens) := by
  refine ⟨fun hwords => ?_, fun length hwords => ?_⟩
  · exact allOrNothing_of_read (by decide) hwords (by decide +kernel)
      (fun _ => read_write_eq_ok_iff) fun _ => read_write_eq_error_iff
  · exact allOrNothing_of_read (by decide) hwords (by decide +kernel)
      (fun _ => read_search_eq_ok_iff) fun _ => read_search_eq_error_iff

/-- Three bytes in three spellings, and a search whose second byte is the first word that is wrong. -/
theorem byte_lists_whole_three :
    let s : Session :=
      { resolve := fun _ => none, codeSize := .bits16, current := { ds := 0x20, edi := 0x10 } }
    let conversation (line : String) :=
      (execute builtinTable s line).converse ScriptedHost.answer {}
    Text.words "e  edi 0x00 255 010 " = ["e", "edi", "0x00", "255", "010"] ∧
      (conversation "e  edi 0x00 255 010 ").requests = [.writeMemory ⟨0x20, 0x10⟩ [0, 255, 16]] ∧
      Text.words "s edi -1 7 -1 300" = ["s", "edi", "-1", "7", "-1", "300"] ∧
      (conversation "s edi -1 7 -1 300").Untouched s {} ∧
      (conversation "s edi -1 7 -1 300").value.output =
        [.error "Parse error: Value \"-1\" does not fit in a byte"] := by
  intro s conversation
  have hwrite : Text.words "e  edi 0x00 255 010 " = ["e", "edi", "0x00", "255", "010"] := by
    decide +kernel
  have hsearch : Text.words "s edi -1 7 -1 300" = ["s", "edi", "-1", "7", "-1", "300"] := by
    decide +kernel
  have haddress : Denotes s .data "edi" ⟨0x20, 0x10⟩ := address_eq_ok_iff.mp (by decide +kernel)
  have hbytes : SpellsBytes ["0x00", "255", "010"] [0, 255, 16] :=
    bytes_eq_ok_iff.mp (by decide +kernel)
  have hfault : BytesFault ["7", "-1", "300"] (.notByte "-1") :=
    bytes_eq_error_iff.mp (by decide +kernel)
  have hlength : SpellsInteger "-1" (-1 : Int32).toInt :=
    integer_eq_ok_iff.mp (by decide +kernel)
  obtain ⟨hwhole, -⟩ := byte_lists_whole ScriptedHost.answer {} s _ "edi" ["0x00", "255", "010"]
  obtain ⟨-, hnone⟩ := byte_lists_whole ScriptedHost.answer {} s _ "edi" ["7", "-1", "300"]
  obtain ⟨huntouched, houtput⟩ :=
    (hnone "-1" hsearch).refused _ (.bytes haddress hlength (by decide) hfault)
  exact ⟨hwrite, ((hwhole hwrite).asked _).mpr (.mk haddress hbytes), hsearch, huntouched, houtput⟩

end Console

end DebugConsole
