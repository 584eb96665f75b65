/-!
# Letter case

Names are compared up to the case of the ASCII letters; every other character counts as it is.

* `Text.upper`, `Text.lower`: the text with its ASCII letters in one case.
* `Text.sameName`: equality up to that case.
-/

namespace DebugConsole.Text

/-- The text with its ASCII letters in upper case. -/
def upper (s : String) : String :=
  .ofList (s.toList.map Char.toUpper)

/-- The text with its ASCII letters in lower case. -/
def lower (s : String) : String :=
  .ofList (s.toList.map Char.toLower)

/-- Equality up to the case of ASCII letters. -/
def sameName (s t : String) : Bool :=
  upper s == upper t

end DebugConsole.Text
