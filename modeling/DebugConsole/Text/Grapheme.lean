import DebugConsole.Text.CellWidth

/-!
# What a reader sees as one character

A grapheme is a character with those that it takes in: marks, further pictographs behind a joiner,
the second half of a flag, the vowels and final consonants of a Hangul syllable.

* `Text.joins`: whether a grapheme takes in the next character.
* `Text.graphemes`: the graphemes of a text, in order; nothing is lost.
* `Grapheme.width`: the number of cells a grapheme takes.
-/

namespace DebugConsole

/-- A grapheme: its characters. -/
structure Grapheme where
  chars : List Char
  deriving DecidableEq, Repr

namespace Text

/-- The parts of a Hangul syllable. -/
inductive Hangul where
  | lead | vowel | tail | open | closed
  deriving DecidableEq, Repr

/-- The part of a Hangul syllable that a character is. -/
def hangul? (c : Char) : Option Hangul :=
  let n := c.toNat
  if (0x1100 ≤ n && n ≤ 0x115F) || (0xA960 ≤ n && n ≤ 0xA97C) then some .lead
  else if (0x1160 ≤ n && n ≤ 0x11A7) || (0xD7B0 ≤ n && n ≤ 0xD7C6) then some .vowel
  else if (0x11A8 ≤ n && n ≤ 0x11FF) || (0xD7CB ≤ n && n ≤ 0xD7FB) then some .tail
  else if 0xAC00 ≤ n && n ≤ 0xD7A3 then
    some (if (n - 0xAC00) % 28 = 0 then .open else .closed)
  else none

/-- Whether one part of a Hangul syllable continues another. -/
def Hangul.continues : Hangul → Hangul → Bool
  | .lead, .lead | .lead, .vowel | .lead, .open | .lead, .closed => true
  | .open, .vowel | .open, .tail | .vowel, .vowel | .vowel, .tail => true
  | .closed, .tail | .tail, .tail => true
  | _, _ => false

/-- Whether a consonant is linked to one in a grapheme, whose characters are given latest first. -/
def isLinked (before : List Char) : Bool :=
  let isMark (c : Char) : Bool := isExtending c && c != '\u200C'
  (before.takeWhile isMark).any isLinking && (before.dropWhile isMark).head?.any isConsonant

/-- Whether a joiner at the end of a grapheme, whose earlier characters are given latest first, has a
pictograph to join. -/
def isJoined (before : List Char) : Bool :=
  (before.dropWhile fun c => isExtending c && c != joiner).head?.any isPictograph

/-- Whether a grapheme takes in a character. Its own characters are `last`, the last of them, and
those before it, latest first. -/
def joins (last : Char) (before : List Char) (c : Char) : Bool :=
  if isControl last || isControl c then last = '\r' && c = '\n'
  else if isExtending c || isSpacing c || isPrepending last then true
  else if isFlagHalf c then ((last :: before).takeWhile isFlagHalf).length % 2 = 1
  else if isConsonant c then isLinked (last :: before)
  else if isPictograph c then last = joiner && isJoined before
  else
    match hangul? last, hangul? c with
    | some part, some next => part.continues next
    | _, _ => false

/-- The graphemes of a text whose first one has been begun. -/
def graphemesFrom (last : Char) (before : List Char) : List Char → List Grapheme
  | [] => [⟨(last :: before).reverse⟩]
  | c :: rest =>
    if joins last before c then graphemesFrom c (last :: before) rest
    else ⟨(last :: before).reverse⟩ :: graphemesFrom c [] rest

/-- The graphemes of a text. -/
def graphemes (s : String) : List Grapheme :=
  match s.toList with
  | [] => []
  | c :: rest => graphemesFrom c [] rest

end Text

namespace Grapheme

/-- The characters of a grapheme as a text. -/
def text (g : Grapheme) : String :=
  .ofList g.chars

/-- The number of cells a grapheme takes. -/
def width (g : Grapheme) : Nat :=
  Text.clusterWidth g.chars

end Grapheme

end DebugConsole
