import UserAccounts.Url.Idna.Mapping
import UserAccounts.Url.Idna.Punycode
import UserAccounts.Url.Idna.Script

/-!
# Domain names in ASCII

`toAscii?` gives the form in which a domain name is looked up. Characters are mapped and composed
first; then every label is checked, and a label with characters beyond ASCII is written as `xn--`
and its ASCII spelling. A label that has this form already must be the spelling of a good label.
-/

namespace UserAccounts.Url.Idna

/-- Characters that no domain name contains. -/
def isForbidden (c : Char) : Bool :=
  c.toNat ≤ 0x20 || c.toNat == 0x7F || c == '#' || c == '%' || c == '/' || c == ':' || c == '<' ||
    c == '>' || c == '?' || c == '@' || c == '[' || c == '\\' || c == ']' || c == '^' || c == '|'

/-- Whether a character belongs to ASCII. -/
def isAscii (c : Char) : Bool :=
  c.toNat < 0x80

/-- The longest label that is written in ASCII, in characters. -/
def maxLabel : Nat := 1000

/-- The longest spelling that is read, in characters after `xn--`. -/
def maxSpelling : Nat := 2000

/-- A name with all its characters mapped and composed. -/
def normalize? (name : List Char) : Option (List Char) :=
  (name.mapM mapChar?).map fun parts => (Text.Normal.compose parts.flatten).map Char.ofNat

/-- The parts of a name between its dots. -/
def labels : List Char → List (List Char)
  | [] => [[]]
  | '.' :: rest => [] :: labels rest
  | c :: rest =>
    match labels rest with
    | [] => [[c]]
    | label :: others => (c :: label) :: others

/-- A label beyond ASCII is well formed if no character of it is out of place. -/
def isWellFormed (label : List Char) : Bool :=
  !label.any isForbidden && !beginsWithMark label && joinersFit [] label

/-- A label as it is shown, and as it is looked up. -/
structure Label where
  shown : List Char
  ascii : List Char

/-- The label that a spelling after `xn--` stands for. It must differ from its spelling, and mapping
and composing must leave it alone. -/
def Label.ofSpelling? (spelling : List Char) : Option Label :=
  if maxSpelling < spelling.length then none
  else
    match (Punycode.decode spelling).map (·.map Char.ofNat) with
    | none => none
    | some shown =>
      if shown.all isAscii || normalize? shown ≠ some shown || "xn--".toList.isPrefixOf shown ||
          !isWellFormed shown then
        none
      else some ⟨shown, "xn--".toList ++ spelling⟩

/-- A label of a normalized name, checked. -/
def Label.of? (label : List Char) : Option Label :=
  match label with
  | 'x' :: 'n' :: '-' :: '-' :: spelling => Label.ofSpelling? spelling
  | _ =>
    if label.all isAscii then
      if label.any isForbidden then none else some ⟨label, label⟩
    else if maxLabel < label.length || !isWellFormed label then none
    else some ⟨label, "xn--".toList ++ Punycode.encode (label.map Char.toNat)⟩

/-- Whether the labels of a name can be shown side by side without changing places. -/
def keepDirections (shown : List (List Char)) : Bool :=
  let directions := shown.map (·.map direction)
  !directions.any (·.any Direction.isFromRight) || directions.all keepsDirection

/-- The ASCII form of a domain name. -/
def toAscii? (s : String) : Option (List Char) := do
  let name ← normalize? s.toList
  let checked ← (labels name).mapM Label.of?
  if checked.all (·.shown.all isAscii) || keepDirections (checked.map (·.shown)) then
    some (".".toList.intercalate (checked.map (·.ascii)))
  else none

end UserAccounts.Url.Idna
