import UserAccounts.Text.CodePoints
import UserAccounts.Text.Utf8

/-!
# Percent-encoding

A byte may be written as a percent sign and two hexadecimal digits. `percentEncode` writes the bytes
of a text, those of some characters in that way; `percentDecode` gives the bytes that a text stands
for, and leaves a percent sign that is not followed by two digits as it is. The character sets are
those of the parts of a URL.
-/

namespace UserAccounts.Url

/-- A hexadecimal digit in upper case. -/
def upperHexDigit (n : Nat) : Char :=
  (Nat.digitChar n).toUpper

/-- The percent-encoded form of a byte. -/
def percentByte (b : UInt8) : List Char :=
  ['%', upperHexDigit (b.toNat / 16), upperHexDigit (b.toNat % 16)]

/-- The written form of a character, percent-encoded if it belongs to a set. -/
def percentChar (set : Char → Bool) (c : Char) : List Char :=
  if set c then (String.utf8EncodeChar c).flatMap percentByte else [c]

/-- The written form of characters, those of a set percent-encoded. -/
def percentEncode (set : Char → Bool) (cs : List Char) : List Char :=
  cs.flatMap (percentChar set)

/-- The bytes that characters stand for. -/
def percentDecode : List Char → List UInt8
  | [] => []
  | '%' :: high :: low :: rest =>
    match Text.hexValue? high, Text.hexValue? low with
    | some h, some l => UInt8.ofNat (16 * h + l) :: percentDecode rest
    | _, _ => 0x25 :: percentDecode (high :: low :: rest)
  | c :: rest => String.utf8EncodeChar c ++ percentDecode rest

/-! ## Character sets -/

/-- Controls, and all characters outside the ASCII range. -/
def inControls (c : Char) : Bool :=
  c.toNat < 0x20 || 0x7E < c.toNat

/-- What is percent-encoded in a fragment. -/
def inFragment (c : Char) : Bool :=
  inControls c || c == ' ' || c == '"' || c == '<' || c == '>' || c.toNat == 0x60

/-- What is percent-encoded in a path. -/
def inPath (c : Char) : Bool :=
  inFragment c || c == '#' || c == '?' || c == '\x7b' || c == '\x7d'

/-- What is percent-encoded in a user name or password. -/
def inUserinfo (c : Char) : Bool :=
  inPath c || c == '/' || c == ':' || c == ';' || c == '=' || c == '@' || c == '[' || c == '\\' ||
    c == ']' || c == '^' || c == '|'

/-- What is percent-encoded in a query. -/
def inQuery (c : Char) : Bool :=
  inControls c || c == ' ' || c == '"' || c == '#' || c == '<' || c == '>'

/-- What is percent-encoded in a query of a special scheme. -/
def inSpecialQuery (c : Char) : Bool :=
  inQuery c || c == '\''

end UserAccounts.Url
