import DebugConsole.Host.Scripted
import DebugConsole.Proofs.Command.Addresses
import DebugConsole.Proofs.Console.TypedLines
import DebugConsole.Proofs.Symbols.Definitions

/-!
# Symbols as operands

Every symbol of a loaded file can be typed where an address is asked for, and stands there for the
offset of its last definition (`every_symbol_usable`).

- **Addresses** (`address_segment`, `address_symbol`): a symbol behind a segment, whatever other
  colons it has, and a symbol alone.
- **Lines** (`requests_runTo`, `requests_readMemory`): an address typed behind `ga` and `d` is asked
  for.
-/

namespace DebugConsole

variable {σ : Type} {s : Session} {token name : String}

namespace Operand

/-! ## Addresses -/

/-- A symbol behind a segment, whatever other colons it has. -/
theorem address_segment {segment : UInt16} {value : UInt32} (context : Context)
    (hsegment : SpellsSegment s.current token segment) (h : Symbolic name) (hne : name ≠ "")
    (hresolve : s.resolve name = some value) :
    address s context (token ++ ":" ++ name) = .ok ⟨segment, value⟩ := by
  rw [address_explicit context hsegment.not_mem.1, segment_spelled hsegment,
    offset_symbol h hne hresolve]
  rfl

/-- A symbol alone, in the segment of its context. -/
theorem address_symbol {value : UInt32} (context : Context) (h : Symbolic name) (hne : name ≠ "")
    (hcolon : ':' ∉ name.toList) (hresolve : s.resolve name = some value) :
    address s context name = .ok ⟨context.segment s.current, value⟩ := by
  simp only [address, splitColon?_eq_none hcolon, offset_symbol h hne hresolve]
  rfl

end Operand

namespace Console

open Operand

/-! ## Lines -/

theorem requests_runTo {a : Address} (host : Host σ) (x : σ) (hword : Text.IsWord token)
    (haddress : address s .code token = .ok a) :
    ((execute builtinTable s ("ga " ++ token)).converse host x).requests = [.runTo a] := by
  have hspelled : "ga " = "ga" ++ " " := by decide
  rw [hspelled, execute_runTo hword haddress, requests_single]

theorem requests_readMemory {a : Address} (host : Host σ) (x : σ) (hword : Text.IsWord token)
    (haddress : address s .data token = .ok a) :
    ((execute builtinTable s ("d " ++ token)).converse host x).requests = [.readMemory a 64] := by
  have hspelled : "d " = "d" ++ " " := by decide
  rw [hspelled, execute_readMemory hword haddress, requests_single]
  rfl

end Console

/-! ## Loaded files -/

namespace SymbolTable

open Operand

/-- Every name that a loaded file defines stands for the offset of its last definition. It is one
word wherever it is typed between words. If digits and registers do not come before it, it is found
behind every segment, and if it has no colon, also alone, in the segment of the next instruction or
of the data. -/
theorem every_symbol_usable {text : String} {t : SymbolTable} (hparse : parse text = .ok t)
    {line name : String} {defined : UInt32} (hline : line ∈ Text.lines text)
    (hdefines : Defines line name defined) {s : Session} (hresolve : s.resolve = t.find?)
    (host : Host σ) (x : σ) :
    let asked (line : String) := ((Console.execute builtinTable s line).converse host x).requests
    (∀ before after : String,
      Text.words (before ++ " " ++ name) = Text.words before ++ [name] ∧
      Text.words (before ++ " " ++ name ++ " " ++ after) =
        Text.words before ++ [name] ++ Text.words after) ∧
    ∃ offset, (∀ other, LastDefined (Text.lines text) name other ↔ other = offset) ∧
      (Symbolic name →
        (∀ token segment, SpellsSegment s.current token segment →
          asked ("ga " ++ token ++ ":" ++ name) = [.runTo ⟨segment, offset⟩]) ∧
        (':' ∉ name.toList →
          asked ("ga " ++ name) = [.runTo ⟨s.current.cs, offset⟩] ∧
          asked ("d " ++ name) = [.readMemory ⟨s.current.ds, offset⟩ 64])) := by
  intro asked
  have hword : Text.IsWord name := hdefines.isWord
  refine ⟨fun before after => ?_, ?_⟩
  · have hbehind : Text.words (before ++ " " ++ name) = Text.words before ++ [name] := by
      rw [Text.words_append_space, hword.words_eq]
    exact ⟨hbehind, by rw [Text.words_append_space, hbehind]⟩
  obtain ⟨offset, hlast⟩ := exists_lastDefined hline hdefines
  have hfind : t.find? name = some offset := (find?_eq_some_iff hparse).mpr hlast
  have hsymbol : s.resolve name = some offset := by rw [hresolve, hfind]
  refine ⟨offset, fun other => ?_, fun hsymbolic => ⟨fun token segment hsegment => ?_, ?_⟩⟩
  · rw [← find?_eq_some_iff hparse, hfind, Option.some.injEq, eq_comm]
  · have haddress := address_segment .code hsegment hsymbolic hword.ne_empty hsymbol
    have htoken : Text.IsWord (token ++ ":" ++ name) := by
      refine ⟨by simp [hword.ne_empty], ?_⟩
      simp [hsegment.not_mem.2, hword.no_space]
    have hspelled : "ga " ++ token ++ ":" ++ name = "ga " ++ (token ++ ":" ++ name) := by
      simp only [String.append_assoc]
    rw [hspelled]
    exact Console.requests_runTo host x htoken haddress
  · intro hcolon
    have hcode := address_symbol .code hsymbolic hword.ne_empty hcolon hsymbol
    have hdata := address_symbol .data hsymbolic hword.ne_empty hcolon hsymbol
    exact ⟨Console.requests_runTo host x hword hcode,
      Console.requests_readMemory host x hword hdata⟩

/-- A symbol that is defined twice, and one with a colon in its name, which needs a segment. -/
theorem every_symbol_usable_twice :
    let text := "main 0x100\nint:21 1F3A # entry\n\tmain +200\n"
    let t : SymbolTable := ⟨[("main", 0x200), ("int:21", 0x1F3A)]⟩
    let s : Session :=
      { resolve := t.find?, codeSize := .bits16, current := { cs := 0x10, ds := 0x20 } }
    let asked (line : String) :=
      ((Console.execute builtinTable s line).converse ScriptedHost.answer {}).requests
    parse text = .ok t ∧ "main 0x100" ∈ Text.lines text ∧ Defines "main 0x100" "main" 0x100 ∧
      Symbolic "main" ∧ SpellsSegment s.current "eS" 0 ∧
      asked "ga eS:main" = [.runTo ⟨0, 0x200⟩] ∧
      asked "ga main" = [.runTo ⟨0x10, 0x200⟩] ∧
      asked "d main" = [.readMemory ⟨0x20, 0x200⟩ 64] ∧
      asked "ga 0f:int:21" = [.runTo ⟨0xF, 0x1F3A⟩] := by
  intro text t s asked
  have hparse : parse text = .ok t := by decide +kernel
  have hline : "main 0x100" ∈ Text.lines text := by decide +kernel
  have hdefines : Defines "main 0x100" "main" 0x100 := by
    rw [← parseLine_eq_ok_iff]
    decide +kernel
  have hsymbolic : Symbolic "main" := by
    refine ⟨fun n hn => ?_, by decide +kernel⟩
    have hnone : Text.digits? 16 "main".toList = none := by decide +kernel
    rw [hnone] at hn
    cases hn
  have hsegment : SpellsSegment s.current "eS" 0 :=
    .register (show ("ES", 0) ∈ namedSegments s.current by decide) (by decide +kernel)
  obtain ⟨-, offset, hlast, husable⟩ :=
    every_symbol_usable hparse hline hdefines (s := s) rfl ScriptedHost.answer {}
  obtain rfl : 0x200 = offset :=
    (hlast 0x200).mp ((find?_eq_some_iff hparse).mp (by decide +kernel))
  obtain ⟨hbehind, halone⟩ := husable hsymbolic
  obtain ⟨hcode, hdata⟩ := halone (by decide)
  exact ⟨hparse, hline, hdefines, hsymbolic, hsegment, hbehind "eS" 0 hsegment, hcode, hdata,
    by decide +kernel⟩

end SymbolTable

end DebugConsole
