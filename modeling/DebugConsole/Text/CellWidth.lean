import DebugConsole.Text.CharClass

/-!
# Widths

How many cells of a screen a text takes.

* `Text.charWidth`: the cells of a character by itself.
* `Text.Behind.step`: a character in front of others, which decide whether it is drawn as an emoji
  of its own, as part of one, or as text.
* `Text.clusterWidth`: the cells of some characters that are drawn together. It reads them from the
  last to the first, since a mark stands behind what it changes.
-/

namespace DebugConsole.Text

/-- The number of cells that a character takes by itself. -/
def charWidth (c : Char) : Nat :=
  match c with
  | '\n' => 0
  | '\u17A4' => 2
  | '\u17D8' => 3
  | '\u2D7F' => 1
  | _ =>
    if c.toNat ≤ 0xA0 then 1
    else if isSkinTone c then 2
    else if isExtending c || isHidden c then 0
    else if isWide c then 2
    else 1

/-- What stands behind a character, as far as it matters for its width. -/
inductive Behind where
  | other
  | lineFeed
  /-- An emoji, whose cells are counted. -/
  | emoji
  /-- A joiner and an emoji: another emoji in front is part of it. -/
  | joinedEmoji
  /-- A skin tone, whose cells are counted. -/
  | skinTone
  /-- A mark that asks for an emoji, which may be part of the one behind. -/
  | emojiMark (joined : Bool)
  /-- A mark that asks for text. -/
  | textMark
  deriving DecidableEq, Repr

namespace Behind

/-- What a character is for the one in front of it if it changes nothing behind it. -/
def ofChar (c : Char) : Behind :=
  if c = '\n' then .lineFeed
  else if isSkinTone c then .skinTone
  else if isEmoji c then .emoji
  else .other

/-- What stands behind a character that takes no notice of a mark. -/
def unmarked : Behind → Behind
  | emojiMark true => joinedEmoji
  | emojiMark false | textMark => other
  | b => b

/-- The cells that a character adds in front of what stands behind it, if it takes no mark. -/
def stepUnmarked (c : Char) : Behind → Nat × Behind
  | lineFeed => if c = '\r' then (0, other) else (charWidth c, ofChar c)
  | emoji => if c = joiner then (0, joinedEmoji) else (charWidth c, ofChar c)
  | joinedEmoji => if isSkinTone c || isEmoji c then (0, ofChar c) else (charWidth c, ofChar c)
  | skinTone => if takesSkinTone c then (0, emoji) else (charWidth c, ofChar c)
  | _ => (charWidth c, ofChar c)

/-- The cells that a character adds in front of what stands behind it, and what it is itself for the
character in front of it. -/
def step (c : Char) (b : Behind) : Nat × Behind :=
  if c = Text.emojiMark then (0, emojiMark (b.unmarked = joinedEmoji))
  else if c = Text.textMark then (0, textMark)
  else
    match b with
    | emojiMark joined =>
      if takesEmojiMark c then (if joined then 0 else 2, emoji) else stepUnmarked c b.unmarked
    | textMark => if takesTextMark c then (1, other) else stepUnmarked c b.unmarked
    | _ => stepUnmarked c b

end Behind

/-- The cells that some characters take, and what they are for a character in front of them. -/
def clusterFrom : List Char → Nat × Behind
  | [] => (0, .other)
  | c :: rest =>
    let (width, behind) := clusterFrom rest
    let (more, front) := behind.step c
    (more + width, front)

/-- The number of cells that some characters take that are drawn together. -/
def clusterWidth (cs : List Char) : Nat :=
  (clusterFrom cs).1

end DebugConsole.Text
