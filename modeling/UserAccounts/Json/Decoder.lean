import UserAccounts.Json.Numeral

/-!
# Decoding documents

A type with a `Decode` instance is read from a document. What is read has a limited depth: every
array or object that is entered uses up one of `maxDepth` levels. Members that a record does not
know are passed over, whatever they hold.

A record is written as an object, or as the array of its fields in order. A known field that occurs
twice, a required field that is missing, and an array that is too long are refused.
-/

namespace UserAccounts.Json

/-- The number of arrays and objects that may be open at the same time in what is read. -/
def maxDepth : Nat := 127

/-- Types that are read from JSON, given the levels of depth that are left. -/
class Decode (α : Type) where
  decode? : Nat → Document → Option α

export Decode (decode?)

/-- The value that a text holds. -/
def read? {α : Type} [Decode α] (s : String) : Option α :=
  match Document.read? s with
  | some d => decode? maxDepth d
  | none => none

/-! ## Plain values -/

/-- The text of a string all of whose escapes stood for characters. -/
def Spelling.text? (s : Spelling) : Option String :=
  if s.intact then some s.text else none

/-- Put a member among members sorted by key; it replaces one of the same key. -/
def putMember (key : String) (v : Value) : List (String × Value) → List (String × Value)
  | [] => [(key, v)]
  | (k, w) :: rest =>
    if key < k then (key, v) :: (k, w) :: rest
    else if key == k then (key, v) :: rest
    else (k, w) :: putMember key v rest

/-- Members in the order of their keys, the last of each key. -/
def sortMembers (members : List (String × Value)) : List (String × Value) :=
  members.foldl (fun sorted (key, v) => putMember key v sorted) []

mutual

/-- The value that a document spells, its objects sorted by key. -/
def Document.value? (depth : Nat) : Document → Option Value
  | .null => some .null
  | .bool b => some (.bool b)
  | .number n => n.number?.map .number
  | .string s => s.text?.map .string
  | .array items =>
    match depth with
    | 0 => none
    | depth + 1 => (itemValues? depth items).map .array
  | .object members =>
    match depth with
    | 0 => none
    | depth + 1 => (memberValues? depth members).map fun vs => .object (sortMembers vs)

/-- The values of the elements of an array. -/
def itemValues? (depth : Nat) : List Document → Option (List Value)
  | [] => some []
  | d :: rest =>
    match d.value? depth with
    | none => none
    | some v => (itemValues? depth rest).map (v :: ·)

/-- The values of the members of an object, in the order they are written. -/
def memberValues? (depth : Nat) : List (Spelling × Document) → Option (List (String × Value))
  | [] => some []
  | (key, d) :: rest =>
    match key.text?, d.value? depth with
    | some key, some v => (memberValues? depth rest).map ((key, v) :: ·)
    | _, _ => none

end

instance : Decode Value where
  decode? := Document.value?

instance : Decode String where
  decode?
    | _, .string s => s.text?
    | _, _ => none

/-- An integer between two bounds, written as one. -/
def integerWithin? (low high : Int) : Document → Option Int
  | .number n =>
    match n.whole? with
    | some value => if low ≤ value && value ≤ high then some value else none
    | none => none
  | _ => none

/-- An optional value: `null` stands for none. -/
instance {α : Type} [Decode α] : Decode (Option α) where
  decode?
    | _, .null => some none
    | depth, d => (decode? depth d).map some

/-- Decode all elements, each at the given depth. -/
def decodeAll? {α : Type} [Decode α] (depth : Nat) : List Document → Option (List α)
  | [] => some []
  | d :: rest =>
    match decode? depth d with
    | none => none
    | some a => (decodeAll? depth rest).map (a :: ·)

instance {α : Type} [Decode α] : Decode (List α) where
  decode?
    | depth + 1, .array items => decodeAll? depth items
    | _, _ => none

/-! ## Records -/

/-- What a record says about one of its fields. -/
structure FieldRule where
  name : String
  /-- Whether the field may be missing from an object. -/
  optional : Bool
  /-- Whether the field may be missing at the end of an array. -/
  trailing : Bool

/-- The value of the only member with a given key; the outer level is empty if there are several. -/
def uniqueMember? (name : String) : List (Spelling × Document) → Option (Option Document)
  | [] => some none
  | (key, d) :: rest =>
    if key.text == name then
      if rest.any (fun member => member.1.text == name) then none else some (some d)
    else uniqueMember? name rest

/-- The documents of the fields in the members of an object. -/
def fieldsOfMembers? (members : List (Spelling × Document)) :
    List FieldRule → Option (List (Option Document))
  | [] => some []
  | rule :: rules =>
    match uniqueMember? rule.name members with
    | none => none
    | some none => if rule.optional then (fieldsOfMembers? members rules).map (none :: ·) else none
    | some (some d) => (fieldsOfMembers? members rules).map (some d :: ·)

/-- The documents of the fields in the elements of an array. -/
def fieldsOfItems? : List Document → List FieldRule → Option (List (Option Document))
  | [], [] => some []
  | _ :: _, [] => none
  | [], rule :: rules =>
    if rule.trailing then (fieldsOfItems? [] rules).map (none :: ·) else none
  | d :: rest, _ :: rules => (fieldsOfItems? rest rules).map (some d :: ·)

/-- The documents of a record's fields, in the order of the rules. -/
def Document.fields? (rules : List FieldRule) : Document → Option (List (Option Document))
  | .object members =>
    if members.all (fun member => member.1.intact) then fieldsOfMembers? members rules else none
  | .array items => fieldsOfItems? items rules
  | _ => none

/-- A field that must be present. -/
def required? {α : Type} [Decode α] (depth : Nat) : Option Document → Option α
  | some d => decode? depth d
  | none => none

/-- A field that may be absent or `null`. -/
def optional? {α : Type} [Decode α] (depth : Nat) : Option Document → Option (Option α)
  | some d => decode? depth d
  | none => some none

/-- The name that a document gives to a case without content: a string, or an object with this name
as its only key and `null` as its value. -/
def Document.caseName? (depth : Nat) : Document → Option String
  | .string s => s.text?
  | .object [(key, .null)] => if 0 < depth then key.text? else none
  | _ => none

/-- A rule for a field that must be present. -/
def FieldRule.needed (name : String) : FieldRule := ⟨name, false, false⟩

end UserAccounts.Json
