/-!
# Numbers in text

Decimal numerals as people and settings write them: `natural` and `integer` print, `parseNatural`
reads. Reading goes digit by digit from the left and stops at the first fault.
-/

namespace UserAccounts.Text

/-- The largest value of an unsigned number of 64 bits. -/
def maxUnsigned64 : Nat := 0xFFFFFFFFFFFFFFFF

/-- The largest value of a signed number of 64 bits. -/
def maxSigned64 : Nat := 0x7FFFFFFFFFFFFFFF

/-- A natural number in decimal digits. -/
def natural (n : Nat) : String :=
  String.ofList (Nat.toDigits 10 n)

/-- An integer in decimal digits, with a minus sign if it is negative. -/
def integer : Int → String
  | .ofNat n => natural n
  | .negSucc n => "-" ++ natural (n + 1)

/-- The value of a decimal digit. -/
def digitValue? (c : Char) : Option Nat :=
  if '0' ≤ c && c ≤ '9' then some (c.toNat - '0'.toNat) else none

/-- Why a text is not an acceptable number. -/
inductive NumeralError where
  | empty
  | invalidDigit
  | tooLarge
  deriving DecidableEq

/-- The wording of a refused number. -/
def NumeralError.message : NumeralError → String
  | .empty => "cannot parse integer from empty string"
  | .invalidDigit => "invalid digit found in string"
  | .tooLarge => "number too large to fit in target type"

/-- Read the remaining digits of a number that must not exceed `limit`. -/
def readDigits (limit : Nat) : Nat → List Char → Except NumeralError Nat
  | value, [] => .ok value
  | value, c :: rest =>
    match digitValue? c with
    | none => .error .invalidDigit
    | some d =>
      let next := 10 * value + d
      if limit < next then .error .tooLarge else readDigits limit next rest

/-- A natural number of at most `limit`, in decimal digits after an optional plus sign. -/
def parseNatural (limit : Nat) (s : String) : Except NumeralError Nat :=
  match s.toList with
  | [] => .error .empty
  | ['+'] => .error .invalidDigit
  | '+' :: digits => readDigits limit 0 digits
  | digits => readDigits limit 0 digits

end UserAccounts.Text
