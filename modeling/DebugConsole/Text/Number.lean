/-!
# Numbers in text

Digits are read from left to right, so of two faults in one number the one further left is
reported; an alien character is noticed before the overflow it would cause.

* `Text.readDigits`: the value of digits in a base, below a limit.
* `Text.readUnsigned`, `Text.readSigned`: a number with its optional sign.
* `Text.readHex32`: bare hexadecimal digits of a 32-bit value, as addresses are typed.
* `Text.hex`: the digits of a number, upper case, zero-padded to a fixed width.
-/

namespace DebugConsole

/-- Why a text is no number. -/
inductive NumberError where
  | empty
  | invalidDigit
  | tooLarge
  | tooSmall
  deriving DecidableEq, Repr

/-- The wording of a number's fault. -/
def NumberError.message : NumberError → String
  | .empty => "cannot parse integer from empty string"
  | .invalidDigit => "invalid digit found in string"
  | .tooLarge => "number too large to fit in target type"
  | .tooSmall => "number too small to fit in target type"

/-- The value of a digit in a base of at most sixteen; both letter cases count. -/
def digitValue? (base : Nat) (c : Char) : Option Nat :=
  let n := c.toNat
  let value? :=
    if '0' ≤ c && c ≤ '9' then some (n - 48)
    else if 'a' ≤ c && c ≤ 'f' then some (n - 87)
    else if 'A' ≤ c && c ≤ 'F' then some (n - 55)
    else none
  value?.filter (· < base)

namespace Text

/-- The value of the digits after `acc`, as long as it stays below `limit`. -/
def readDigits (base limit : Nat) : Nat → List Char → Except NumberError Nat
  | acc, [] => .ok acc
  | acc, c :: rest =>
    match digitValue? base c with
    | none => .error .invalidDigit
    | some d =>
      if acc * base + d < limit then readDigits base limit (acc * base + d) rest
      else .error .tooLarge

/-- At least one digit; a sign with nothing behind it is an alien character. -/
def readNonempty (base limit : Nat) (digits : List Char) : Except NumberError Nat :=
  if digits.isEmpty then .error .invalidDigit else readDigits base limit 0 digits

/-- A number without sign below `limit`, with an optional plus. -/
def readUnsigned (base limit : Nat) (s : String) : Except NumberError Nat :=
  match s.toList with
  | [] => .error .empty
  | '+' :: digits => readNonempty base limit digits
  | digits => readDigits base limit 0 digits

/-- A decimal number from `-limit` to `limit - 1`, with an optional sign. -/
def readSigned (limit : Nat) (s : String) : Except NumberError Int :=
  match s.toList with
  | [] => .error .empty
  | '+' :: digits => (readNonempty 10 limit digits).map Int.ofNat
  | '-' :: digits =>
    match readNonempty 10 (limit + 1) digits with
    | .ok n => .ok (-n)
    | .error .tooLarge => .error .tooSmall
    | .error e => .error e
  | digits => (readDigits 10 limit 0 digits).map Int.ofNat

/-- At least one hexadecimal digit and nothing else, with a value that fits 32 bits. -/
def readHex32 (digits : List Char) : Option UInt32 :=
  if digits.isEmpty then none
  else (readDigits 16 UInt32.size 0 digits).toOption.map UInt32.ofNat

/-- The hexadecimal digit of a value below sixteen, in upper case. -/
def hexDigit (n : Nat) : Char :=
  (Nat.digitChar n).toUpper

/-- The last `width` hexadecimal digits of a number. -/
def hexDigits : Nat → Nat → List Char
  | 0, _ => []
  | width + 1, n => hexDigits width (n / 16) ++ [hexDigit (n % 16)]

/-- A number in upper-case hexadecimal, exactly `width` digits wide. -/
def hex (width n : Nat) : String :=
  .ofList (hexDigits width n)

/-- A text followed by spaces up to `width` characters; a longer one stays as it is. -/
def padEnd (width : Nat) (s : String) : String :=
  .ofList (s.toList ++ List.replicate (width - s.toList.length) ' ')

end Text

end DebugConsole
