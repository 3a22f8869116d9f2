import UserAccounts.Text.Blank
import UserAccounts.Text.CodePoints
import UserAccounts.Text.Numeral

/-!
# Literals

What the text of an environment variable stands for, read before it is known what the setting wants:
a truth value, a number, a collection, a text in quotes, or else the text as it is. A setting that
wants text accepts no literal of another kind, so `true` or `12` is no text unless it is quoted.
-/

namespace UserAccounts.Config

open UserAccounts.Text (hexValue?)

/-- A value of a setting. -/
inductive Literal where
  | text (s : String)
  | integer (n : Int)
  | truth (b : Bool)
  /-- A number with a point. -/
  | fraction
  /-- A list or a table. -/
  | collection
  deriving DecidableEq

namespace Literal

/-! ## Numbers -/

/-- The rest of a text after its leading digits, and whether there were any. -/
def dropDigits (cs : List Char) : Bool × List Char :=
  let (digits, rest) := cs.span Char.isDigit
  (!digits.isEmpty, rest)

/-- A text without a leading sign. -/
def dropSign : List Char → List Char
  | '+' :: rest => rest
  | '-' :: rest => rest
  | cs => cs

/-- Whether a text is nothing or an exponent. -/
def isExponentOrEmpty : List Char → Bool
  | [] => true
  | e :: rest => (e == 'e' || e == 'E') && dropDigits (dropSign rest) == (true, [])

/-- Whether a text is a decimal number with a point. -/
def isFraction (cs : List Char) : Bool :=
  let (hasWhole, rest) := dropDigits (dropSign cs)
  match rest with
  | '.' :: rest =>
    let (hasPart, rest) := dropDigits rest
    (hasWhole || hasPart) && isExponentOrEmpty rest
  | _ => false

/-- An integer of 64 bits, with or without sign. -/
def integer? (s : String) : Option Int :=
  match s.toList with
  | '-' :: digits =>
    if digits.isEmpty then none
    else ((Text.readDigits (Text.maxSigned64 + 1) 0 digits).toOption).map fun n => -(n : Int)
  | _ => ((Text.parseNatural Text.maxUnsigned64 s).toOption).map fun n => (n : Int)

/-- What a word without quotes stands for. -/
def ofWord (word : String) : Literal :=
  if isFraction word.toList then .fraction
  else
    match integer? word with
    | some n => .integer n
    | none => .text word

/-! ## Quotes -/

/-- Whether a character may stand in quotes as it is. -/
def isPlain (c : Char) : Bool :=
  c == '\t' || (0x20 ≤ c.toNat && c.toNat != 0x7F)

/-- The character of a number of hexadecimal digits. -/
def ofHex? (digits : List Char) : Option Char :=
  let code := digits.foldl (fun value c =>
    match value, hexValue? c with
    | some v, some d => some (16 * v + d)
    | _, _ => none) (some 0)
  code.bind fun n => if n.isValidChar then some (Char.ofNat n) else none

/-- The character that an escape of a single letter stands for. -/
def ofEscape? : Char → Option Char
  | '"' => some '"'
  | '\\' => some '\\'
  | 'b' => some '\x08'
  | 'f' => some '\x0c'
  | 'n' => some '\n'
  | 'r' => some '\r'
  | 't' => some '\t'
  | _ => none

/-- The text between quotes with its escapes resolved. -/
def unescape? : List Char → Option (List Char)
  | [] => some []
  | '\\' :: 'u' :: a :: b :: c :: d :: rest =>
    match ofHex? [a, b, c, d], unescape? rest with
    | some first, some others => some (first :: others)
    | _, _ => none
  | '\\' :: 'U' :: a :: b :: c :: d :: e :: f :: g :: h :: rest =>
    match ofHex? [a, b, c, d, e, f, g, h], unescape? rest with
    | some first, some others => some (first :: others)
    | _, _ => none
  | '\\' :: c :: rest =>
    match ofEscape? c, unescape? rest with
    | some first, some others => some (first :: others)
    | _, _ => none
  | c :: rest => if c != '\\' && isPlain c then (unescape? rest).map (c :: ·) else none

/-- The text up to the closing quote, escapes and all, and what follows the quote. -/
def untilQuote? : List Char → Option (List Char × List Char)
  | [] => none
  | '"' :: rest => some ([], rest)
  | '\\' :: c :: rest => (untilQuote? rest).map fun (inner, rest) => ('\\' :: c :: inner, rest)
  | c :: rest => (untilQuote? rest).map fun (inner, rest) => (c :: inner, rest)

/-- A text in quotes, after the opening one. -/
def quoted? (cs : List Char) : Option (String × List Char) :=
  match untilQuote? cs with
  | some (inner, rest) => (unescape? inner).map fun s => (String.ofList s, rest)
  | none => none

/-! ## Reading -/

/-- Whether a character separates words within a collection. -/
def isBlank (c : Char) : Bool :=
  c == ' ' || c == '\t' || c == '\n' || c == '\r' || c == '\x0c'

/-- A text without blanks at its beginning. -/
def skipBlanks (cs : List Char) : List Char :=
  cs.dropWhile isBlank

/-- Whether a character ends a word. -/
def isSeparator (c : Char) : Bool :=
  c == ',' || c == '[' || c == ']' || c == '\x7b' || c == '\x7d'

/-- Whether a character may stand in the name of an entry of a table. -/
def isNameChar (c : Char) : Bool :=
  c.isAlphanum || c == '_' || c == '-'

/-- What follows the name of an entry and its equals sign. -/
def afterName? (cs : List Char) : Option (List Char) :=
  let rest : Option (List Char) := match skipBlanks cs with
    | '"' :: rest => (quoted? rest).map fun (_, rest) => rest
    | rest =>
      let (name, rest) := rest.span isNameChar
      if name.isEmpty then none else some rest
  match rest.map skipBlanks with
  | some ('=' :: rest) => some rest
  | _ => none

/-- What follows a comma or the character that closes a collection; whether it was closed. -/
def afterItem? (close : Char) : List Char → Option (Bool × List Char)
  | ',' :: rest => some (false, rest)
  | c :: rest => if c == close then some (true, rest) else none
  | [] => none

mutual

/-- A literal at the beginning of a text, and the rest. The first argument bounds the nesting and
the number of items together. -/
def value? (fuel : Nat) (cs : List Char) : Option (Literal × List Char) :=
  match fuel with
  | 0 => none
  | fuel + 1 =>
    let cs := skipBlanks cs
    match "true".toList.isPrefixOf? cs, "false".toList.isPrefixOf? cs with
    | some rest, _ => some (.truth true, skipBlanks rest)
    | none, some rest => some (.truth false, skipBlanks rest)
    | none, none =>
      match cs with
      | '[' :: rest => (items? false fuel rest).map fun rest => (.collection, skipBlanks rest)
      | '\x7b' :: rest => (items? true fuel rest).map fun rest => (.collection, skipBlanks rest)
      | '"' :: rest => (quoted? rest).map fun (s, rest) => (.text s, skipBlanks rest)
      | '\x27' :: rest =>
        match rest with
        | c :: '\x27' :: rest => some (.text (String.singleton c), skipBlanks rest)
        | _ => none
      | _ =>
        let (word, rest) := cs.span fun c => !isSeparator c
        some (ofWord (Text.trim (String.ofList word)), skipBlanks rest)

/-- What follows a list or a table, after its opening character. -/
def items? (isTable : Bool) (fuel : Nat) (cs : List Char) : Option (List Char) :=
  match fuel with
  | 0 => none
  | fuel + 1 =>
    let close := if isTable then '\x7d' else ']'
    if cs.head? == some close then some cs.tail
    else
      let item := if isTable then afterName? cs else some cs
      match item with
      | none => none
      | some item =>
        match value? fuel item with
        | none => none
        | some (_, rest) =>
          match afterItem? close rest with
          | some (true, rest) => some rest
          | some (false, rest) => items? isTable fuel rest
          | none => none

end

/-- Whether a text begins like a collection or a text in quotes. -/
def isStructured (cs : List Char) : Bool :=
  match cs with
  | c :: _ => c == '[' || c == '\x7b' || c == '"' || c == '\x27'
  | [] => false

/-- What a text stands for. A comma makes a list of it. -/
def ofString (s : String) : Literal :=
  let s := Text.trim s
  let cs := s.toList
  if cs.contains ',' && !isStructured cs then .collection
  else
    match value? (cs.length + 1) cs with
    | some (literal, []) => literal
    | _ => .text s

end Literal

end UserAccounts.Config
