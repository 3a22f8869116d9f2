import UserAccounts.Decimal.Shortest
import UserAccounts.Text.Inspect

/-!
# JSON values

`Json.Value` is a value of the JSON data model with numbers of bounded range, and `Value.compact`
its text without blanks: members in the order they are listed, and inside strings only the quote,
the backslash and control characters escaped.
-/

namespace UserAccounts.Json

open Text (Inspect inspect)

/-- A number: a whole number of at most 64 bits, or a finite double-precision number by its bits. -/
inductive Number where
  | whole (n : Int)
  | float (bits : UInt64)
  deriving DecidableEq

namespace Number

/-- The digits of a number. -/
def text : Number → String
  | .whole n => Text.integer n
  | .float bits =>
    match Binary64.ofBits? bits with
    | some x => x.render Decimal.scientificOrPlain
    | none => "null"

end Number

/-- A JSON value. The members of an object keep the order in which they are listed. -/
inductive Value where
  | null
  | bool (b : Bool)
  | number (n : Number)
  | string (s : String)
  | array (items : List Value)
  | object (members : List (String × Value))

namespace Value

/-- A whole number. -/
def whole (n : Int) : Value := .number (.whole n)

/-- A whole number without sign. -/
def natural (n : Nat) : Value := .number (.whole n)

end Value

/-- The written form of a character inside a string. -/
def escapedChar (c : Char) : List Char :=
  if c == '"' then ['\\', '"']
  else if c == '\\' then ['\\', '\\']
  else if 0x20 ≤ c.toNat then [c]
  else if c == '\n' then ['\\', 'n']
  else if c == '\r' then ['\\', 'r']
  else if c == '\t' then ['\\', 't']
  else if c == '\x08' then ['\\', 'b']
  else if c == '\x0c' then ['\\', 'f']
  else ['\\', 'u', '0', '0', Nat.digitChar (c.toNat / 16), Nat.digitChar (c.toNat % 16)]

/-- A string between quotes. -/
def quoteChars (s : String) : List Char :=
  '"' :: s.toList.flatMap escapedChar ++ ['"']

mutual

/-- The text of a value, without blanks. -/
def Value.chars : Value → List Char
  | .null => "null".toList
  | .bool true => "true".toList
  | .bool false => "false".toList
  | .number n => n.text.toList
  | .string s => quoteChars s
  | .array items => '[' :: itemChars items ++ [']']
  | .object members => '\x7b' :: memberChars members ++ ['\x7d']

/-- The texts of the elements of an array, separated by commas. -/
def itemChars : List Value → List Char
  | [] => []
  | [v] => v.chars
  | v :: w :: rest => v.chars ++ ',' :: itemChars (w :: rest)

/-- The texts of the members of an object, separated by commas. -/
def memberChars : List (String × Value) → List Char
  | [] => []
  | [(key, v)] => quoteChars key ++ ':' :: v.chars
  | (key, v) :: next :: rest =>
    quoteChars key ++ ':' :: v.chars ++ ',' :: memberChars (next :: rest)

end

/-- The text of a value, without blanks. -/
def Value.compact (v : Value) : String :=
  String.ofList v.chars

mutual

/-- The form of a value for developers, which names its kinds. -/
def Value.shown : Value → String
  | .null => "Null"
  | .bool b => Inspect.wrapped "Bool" (inspect b)
  | .number n => Inspect.wrapped "Number" n.text
  | .string s => Inspect.wrapped "String" (inspect s)
  | .array items => "Array [" ++ Inspect.commaSeparated (shownItems items) ++ "]"
  | .object members => "Object \x7b" ++ Inspect.commaSeparated (shownMembers members) ++ "\x7d"

/-- The forms of the elements of an array. -/
def shownItems : List Value → List String
  | [] => []
  | v :: rest => v.shown :: shownItems rest

/-- The forms of the members of an object. -/
def shownMembers : List (String × Value) → List String
  | [] => []
  | (key, v) :: rest => (inspect key ++ ": " ++ v.shown) :: shownMembers rest

end

instance : Inspect Value where
  inspect := Value.shown

/-- Types whose values are written as JSON. -/
class Encode (α : Type) where
  encode : α → Value

export Encode (encode)

instance : Encode Value where
  encode := id

instance : Encode String where
  encode := .string

/-- The compact text of what is encoded. -/
def text {α : Type} [Encode α] (a : α) : String :=
  (encode a).compact

end UserAccounts.Json
