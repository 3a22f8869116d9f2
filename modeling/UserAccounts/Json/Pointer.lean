import UserAccounts.Json.Basic

/-!
# Pointers into JSON values

A pointer is a sequence of reference tokens, each after a slash; inside a token `~1` stands for a
slash and `~0` for a tilde. `Value.at?` follows one.
-/

namespace UserAccounts.Json

/-- Characters split at every `separator`; there is always at least one part. -/
def splitChars (separator : Char) : List Char → List (List Char)
  | [] => [[]]
  | c :: rest =>
    match splitChars separator rest with
    | part :: parts => if c == separator then [] :: part :: parts else (c :: part) :: parts
    | [] => [[c]]

/-- A reference token with its escapes resolved. -/
def unescapeToken : List Char → List Char
  | '~' :: '1' :: rest => '/' :: unescapeToken rest
  | '~' :: '0' :: rest => '~' :: unescapeToken rest
  | c :: rest => c :: unescapeToken rest
  | [] => []

/-- The index that a token names: decimal digits without leading zeros. -/
def indexOfToken? (token : String) : Option Nat :=
  match token.toList with
  | '0' :: _ :: _ => none
  | '+' :: _ => none
  | _ => (Text.parseNatural Text.maxUnsigned64 token).toOption

/-- One step into a value. -/
def Value.child? (token : String) : Value → Option Value
  | .object members => members.lookup token
  | .array items => (indexOfToken? token).bind (items[·]?)
  | _ => none

/-- The tokens of a pointer, unless it does not begin with a slash. -/
def pointerTokens? (pointer : String) : Option (List String) :=
  match pointer.toList with
  | [] => some []
  | '/' :: rest => some ((splitChars '/' rest).map fun token => String.ofList (unescapeToken token))
  | _ => none

/-- The value that a pointer leads to. -/
def Value.at? (pointer : String) (v : Value) : Option Value :=
  match pointerTokens? pointer with
  | some tokens => tokens.foldlM (fun v token => v.child? token) v
  | none => none

end UserAccounts.Json
