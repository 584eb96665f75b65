/-!
# Blank characters

Two separators occur in the program: the space that parts the words of a command line, and any
Unicode white space, which parts the fields of a symbol file and fills blank lines.

* `isBlank`: the characters with the Unicode property White_Space.
* `Text.runs`: the maximal runs of characters that are no separators.
* `Text.trimEnd`: the text without the characters of some kind at its end.
* `Text.lines`: the lines of a text.
-/

namespace DebugConsole

/-- Whether a character has the Unicode property White_Space. -/
def isBlank (c : Char) : Bool :=
  let n := c.toNat
  (0x09 ≤ n && n ≤ 0x0D) || n == 0x20 || n == 0x85 || n == 0xA0 || n == 0x1680
    || (0x2000 ≤ n && n ≤ 0x200A) || n == 0x2028 || n == 0x2029 || n == 0x202F || n == 0x205F
    || n == 0x3000

namespace Text

/-- The maximal runs of characters that are no separators, in order. -/
def runs (separates : Char → Bool) (s : String) : List String :=
  ((s.toList.splitOnP separates).filter (!·.isEmpty)).map String.ofList

/-- The words of a command line: only the space U+0020 parts them. -/
def words (s : String) : List String :=
  runs (· == ' ') s

/-- The fields of a text: any white space parts them. -/
def fields (s : String) : List String :=
  runs isBlank s

/-- The characters up to the last one that is not dropped. -/
def dropEndWhile (drops : Char → Bool) (cs : List Char) : List Char :=
  (cs.reverse.dropWhile drops).reverse

/-- The text without the characters at its end that satisfy `drops`. -/
def trimEnd (drops : Char → Bool) (s : String) : String :=
  .ofList (dropEndWhile drops s.toList)

/-- Whether a text holds white space only. -/
def isBlankLine (s : String) : Bool :=
  s.toList.all isBlank

/-- The lines of a text: a line feed ends each, and nothing after the last one is no line. -/
def lines (s : String) : List String :=
  match (s.toList.splitOnP (· == '\n')).reverse with
  | [] :: before => before.reverse.map String.ofList
  | pieces => pieces.reverse.map String.ofList

end Text

end DebugConsole
