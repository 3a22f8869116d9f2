import UserAccounts.Text.CodePoints
import UserAccounts.Text.Numeral
import UserAccounts.Json.Pointer

/-!
# Network addresses in hosts

The forms of IPv4 and IPv6 addresses that a URL may contain. An IPv4 address has up to four numbers
in decimal, octal or hexadecimal notation, the last of which fills the remaining bytes. An IPv6
address is written with its longest run of zeros left out.
-/

namespace UserAccounts.Url

/-- Characters split at every dot. -/
def splitDots (cs : List Char) : List (List Char) :=
  Json.splitChars '.' cs

/-! ## IPv4 -/

/-- The value of digits in a base of at most 16. -/
def digitsValue? (base : Nat) (digits : List Char) : Option Nat :=
  digits.foldl (fun value c =>
    match value, Text.hexValue? c with
    | some v, some d => if d < base then some (base * v + d) else none
    | _, _ => none) (some 0)

/-- The value of a part of an IPv4 address: hexadecimal after `0x`, octal after `0`, decimal
otherwise. -/
def ipv4Number? : List Char → Option Nat
  | [] => none
  | '0' :: 'x' :: digits | '0' :: 'X' :: digits => digitsValue? 16 digits
  | '0' :: d :: digits => digitsValue? 8 (d :: digits)
  | digits => digitsValue? 10 digits

/-- The parts of an IPv4 address, without an empty one at the end. -/
def ipv4Parts (cs : List Char) : List (List Char) :=
  let parts := splitDots cs
  match parts.reverse with
  | [] :: rest@(_ :: _) => rest.reverse
  | _ => parts

/-- Whether a host can only be an IPv4 address: its last part is a number. -/
def endsInNumber (cs : List Char) : Bool :=
  match (ipv4Parts cs).reverse with
  | [] => false
  | last :: _ => (!last.isEmpty && last.all Char.isDigit) || (ipv4Number? last).isSome

/-- The address of the values of its parts: all but the last are bytes. -/
def ipv4OfNumbers? (numbers : List Nat) : Option Nat :=
  match numbers.reverse with
  | [] => none
  | last :: bytes =>
    let missing := 4 - bytes.length
    if 4 < numbers.length || Nat.pow 256 missing ≤ last || bytes.any (255 < ·) then none
    else some (bytes.reverse.foldl (fun value b => 256 * value + b) 0 * Nat.pow 256 missing + last)

/-- An IPv4 address, as a number of 32 bits. -/
def parseIpv4? (cs : List Char) : Option Nat :=
  ((ipv4Parts cs).mapM ipv4Number?).bind ipv4OfNumbers?

/-- An IPv4 address in four decimal numbers. -/
def ipv4Text (address : Nat) : List Char :=
  ['.'].intercalate <| [0x1000000, 0x10000, 0x100, 1].map fun unit =>
    (Text.natural (address / unit % 256)).toList

/-! ## IPv6 -/

/-- A number in decimal digits without leading zeros, at most 255. -/
def strictByte? (digits : List Char) : Option Nat :=
  match digits with
  | [] => none
  | '0' :: _ :: _ => none
  | _ =>
    if digits.length ≤ 3 && digits.all Char.isDigit then
      (digitsValue? 10 digits).bind fun n => if n ≤ 255 then some n else none
    else none

/-- An IPv4 address in four decimal numbers without leading zeros, as two groups of 16 bits. -/
def dottedGroups? (cs : List Char) : Option (List Nat) :=
  match (splitDots cs).mapM strictByte? with
  | some [a, b, c, d] => some [256 * a + b, 256 * c + d]
  | _ => none

/-- A group of an IPv6 address: one to four hexadecimal digits. -/
def ipv6Group? (digits : List Char) : Option Nat :=
  if 1 ≤ digits.length && digits.length ≤ 4 then digitsValue? 16 digits else none

/-- The groups of one side of an IPv6 address; the last may be in the form of an IPv4 address. -/
def ipv6Groups? : List (List Char) → Option (List Nat)
  | [] => some []
  | [last] => if last.contains '.' then dottedGroups? last else (ipv6Group? last).map ([·])
  | part :: rest =>
    match ipv6Group? part with
    | none => none
    | some group => (ipv6Groups? rest).map (group :: ·)

/-- The groups between colons; no text has no groups. -/
def ipv6Side? (cs : List Char) : Option (List Nat) :=
  if cs.isEmpty then some [] else ipv6Groups? (Json.splitChars ':' cs)

/-- The texts before and after the first pair of colons. -/
def splitDoubleColon : List Char → Option (List Char × List Char)
  | ':' :: ':' :: rest => some ([], rest)
  | c :: rest => (splitDoubleColon rest).map fun (before, after) => (c :: before, after)
  | [] => none

/-- An IPv6 address as eight groups of 16 bits. A pair of colons stands for one or more groups of
zero. -/
def parseIpv6? (cs : List Char) : Option (List Nat) :=
  match splitDoubleColon cs with
  | none =>
    match ipv6Side? cs with
    | some groups => if groups.length = 8 then some groups else none
    | none => none
  | some (before, after) =>
    if before.contains '.' then none
    else
      match ipv6Side? before, ipv6Side? after with
      | some left, some right =>
        if left.length + right.length ≤ 7 then
          some (left ++ List.replicate (8 - left.length - right.length) 0 ++ right)
        else none
      | _, _ => none

/-- How many zeros stand at the beginning. -/
def zeroRun (groups : List Nat) : Nat :=
  (groups.takeWhile (· == 0)).length

/-- Where the longest run of zeros begins and how long it is; the first of equally long ones. -/
def longestZeroRun (groups : List Nat) : Nat × Nat :=
  (List.range groups.length).foldl (fun best i =>
    let run := zeroRun (groups.drop i)
    if best.2 < run then (i, run) else best) (0, 0)

/-- Groups in hexadecimal digits, separated by colons. -/
def groupText (groups : List Nat) : List Char :=
  [':'].intercalate (groups.map (Nat.toDigits 16))

/-- An IPv6 address; its longest run of two or more zeros is left out. -/
def ipv6Text (groups : List Nat) : List Char :=
  let (start, size) := longestZeroRun groups
  if size < 2 then groupText groups
  else groupText (groups.take start) ++ [':', ':'] ++ groupText (groups.drop (start + size))

end UserAccounts.Url
