/-!
# Bus names

A peer on the message bus has a unique name, which starts with a colon, or a well-known name. Both
are made of letters, digits, `_`, `-` and points; two points never follow each other.

* `BusName.uniqueFault?`, `BusName.wellKnownFault?`: why a text is no name of the one form.
* `BusName.fault?`: why a text is no bus name; both forms are reported.
-/

namespace DebugConsole.Wire

/-- Why a text is no name of one of the two forms. -/
inductive NameFault where
  | empty (least : Nat)
  | tooShort (name : String) (least : Nat)
  | tooLong (name : String) (most : Nat)
  | missingColon
  | doublePoint
  | leadingDigit
  | badCharacter (c : Char)
  | missingPoint
  deriving DecidableEq, Repr

namespace NameFault

/-- A name with its length in bytes, and what is wrong with that. -/
private def lengthText (name verdict : String) (bound : Nat) : String :=
  "`" ++ name ++ "` is " ++ toString name.utf8ByteSize ++ " characters long, which is " ++ verdict
    ++ " allowed (" ++ toString bound ++ ")"

/-- The wording of a fault. -/
def message : NameFault → String
  | .empty least => "must contain at least " ++ toString least ++ " characters"
  | .tooShort name least => lengthText name "smaller than minimum" least
  | .tooLong name most => lengthText name "longer than maximum" most
  | .missingColon => "must start with a `:`"
  | .doublePoint => "must not contain a double `.`"
  | .leadingDigit => "each element must not start with a digit"
  | .badCharacter c => "`" ++ .ofList [c] ++ "` character not allowed"
  | .missingPoint => "must contain at least 1 `.`"

end NameFault

namespace BusName

/-- The greatest length of a name, in bytes. -/
def maxLength : Nat := 255

/-- The unique name of the bus itself, which has no colon. -/
def busItself : String := "org.freedesktop.DBus"

/-- Whether a character may stand between points. -/
def isElementCharacter (c : Char) : Bool :=
  c.isAlphanum || c = '_' || c = '-'

/-- Why the characters behind `before` are no elements; `dotted` tells whether a point was seen. A
point cannot stand first, and a digit can begin an element only if `digitsMayLead`. -/
def elementsFault? (digitsMayLead : Bool) :
    Option Char → Bool → List Char → Option NameFault
  | _, dotted, [] => if dotted then none else some .missingPoint
  | before, dotted, c :: rest =>
    let leads := before = none || before = some '.'
    if c = '.' then
      if leads then some .doublePoint else elementsFault? digitsMayLead (some c) true rest
    else if c.isDigit && leads && !digitsMayLead then some .leadingDigit
    else if !isElementCharacter c then some (.badCharacter c)
    else elementsFault? digitsMayLead (some c) dotted rest

/-- Why a text is no unique name. -/
def uniqueFault? (name : String) : Option NameFault :=
  if name.isEmpty then some (.empty 4)
  else if maxLength < name.utf8ByteSize then some (.tooLong name maxLength)
  else if name = busItself then none
  else
    match name.toList with
    | ':' :: rest => elementsFault? true (some ':') false rest
    | _ => some .missingColon

/-- Why a text is no well-known name. -/
def wellKnownFault? (name : String) : Option NameFault :=
  if name.isEmpty then some (.empty 3)
  else if maxLength < name.utf8ByteSize then some (.tooLong name maxLength)
  else if name.utf8ByteSize < 3 then some (.tooShort name 3)
  else elementsFault? false none false name.toList

/-- Why a text is no name of either form. -/
structure Fault where
  unique : NameFault
  wellKnown : NameFault
  deriving DecidableEq, Repr

/-- The wording of a fault. -/
def Fault.message (f : Fault) : String :=
  "Neither a valid unique (" ++ f.unique.message ++ ") nor a well-known ("
    ++ f.wellKnown.message ++ ") bus name"

/-- Why a text is no bus name. -/
def fault? (name : String) : Option Fault :=
  match uniqueFault? name, wellKnownFault? name with
  | some unique, some wellKnown => some ⟨unique, wellKnown⟩
  | _, _ => none

end BusName

end DebugConsole.Wire
