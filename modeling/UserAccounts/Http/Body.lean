import UserAccounts.Account.Failure
import UserAccounts.Account.Basic
import UserAccounts.Http.MediaType
import UserAccounts.Http.Target

/-!
# What requests and responses say

The bodies and queries of the account endpoints. A body is accepted if it is declared to be JSON and
not too long; bytes that are no text count only where text is needed.
-/

namespace UserAccounts

open Text (Inspect inspect)

/-- The body of a request to create an account. -/
structure CreateAccountBody where
  username : String
  firstName : String
  lastName : String
  deriving DecidableEq

namespace CreateAccountBody

/-- The fields of the body. -/
def fieldRules : List Json.FieldRule :=
  [.needed "username", .needed "firstName", .needed "lastName"]

instance : Json.Decode CreateAccountBody where
  decode?
    | 0, _ => none
    | depth + 1, d =>
      match d.fields? fieldRules with
      | some [username, firstName, lastName] =>
        match Json.required? depth username, Json.required? depth firstName,
            Json.required? depth lastName with
        | some username, some firstName, some lastName => some ⟨username, firstName, lastName⟩
        | _, _, _ => none
      | _ => none

instance : Json.Encode CreateAccountBody where
  encode b := .object
    [("username", .string b.username), ("firstName", .string b.firstName),
      ("lastName", .string b.lastName)]

instance : Inspect CreateAccountBody where
  inspect b := Inspect.record "CreateUserAccountRequest"
    [("username", inspect b.username), ("first_name", inspect b.firstName),
      ("last_name", inspect b.lastName)]

/-- The account that is to be created. -/
def account (b : CreateAccountBody) : Account :=
  .new b.username (.new b.firstName b.lastName)

end CreateAccountBody

/-- A user in a response. The time of creation is in milliseconds. -/
structure UserView where
  id : String
  firstName : String
  lastName : String
  createdAt : Int
  deriving DecidableEq

/-- An account in a response. -/
structure AccountView where
  id : String
  username : String
  user : UserView
  createdAt : Int
  deriving DecidableEq

namespace UserView

/-- What a response says of a user. -/
def ofUser (u : User) : UserView :=
  ⟨u.id.text, u.firstName, u.lastName, u.createdAt.millis⟩

/-- The fields of a user. -/
def fieldRules : List Json.FieldRule :=
  [.needed "id", .needed "firstName", .needed "lastName", .needed "createdAt"]

instance : Json.Encode UserView where
  encode u := .object
    [("id", .string u.id), ("firstName", .string u.firstName), ("lastName", .string u.lastName),
      ("createdAt", .whole u.createdAt)]

/-- A signed number of 64 bits. -/
def signed? (d : Option Json.Document) : Option Int :=
  d.bind (Json.integerWithin? Int64.minValue.toInt Int64.maxValue.toInt)

instance : Json.Decode UserView where
  decode?
    | 0, _ => none
    | depth + 1, d =>
      match d.fields? fieldRules with
      | some [id, firstName, lastName, createdAt] =>
        match Json.required? depth id, Json.required? depth firstName,
            Json.required? depth lastName, signed? createdAt with
        | some id, some firstName, some lastName, some createdAt =>
          some ⟨id, firstName, lastName, createdAt⟩
        | _, _, _, _ => none
      | _ => none

instance : Inspect UserView where
  inspect u := Inspect.record "UserResponse"
    [("id", inspect u.id), ("first_name", inspect u.firstName), ("last_name", inspect u.lastName),
      ("created_at", inspect u.createdAt)]

end UserView

namespace AccountView

/-- What a response says of an account. -/
def ofAccount (a : Account) : AccountView :=
  ⟨a.id.text, a.username, .ofUser a.user, a.createdAt.millis⟩

/-- The fields of an account. -/
def fieldRules : List Json.FieldRule :=
  [.needed "id", .needed "username", .needed "user", .needed "createdAt"]

instance : Json.Encode AccountView where
  encode a := .object
    [("id", .string a.id), ("username", .string a.username), ("user", Json.encode a.user),
      ("createdAt", .whole a.createdAt)]

instance : Json.Decode AccountView where
  decode?
    | 0, _ => none
    | depth + 1, d =>
      match d.fields? fieldRules with
      | some [id, username, user, createdAt] =>
        match Json.required? depth id, Json.required? depth username, Json.required? depth user,
            UserView.signed? createdAt with
        | some id, some username, some user, some createdAt => some ⟨id, username, user, createdAt⟩
        | _, _, _, _ => none
      | _ => none

instance : Inspect AccountView where
  inspect a := Inspect.record "UserAccountResponse"
    [("id", inspect a.id), ("username", inspect a.username), ("user", inspect a.user),
      ("created_at", inspect a.createdAt)]

end AccountView

namespace Http

/-! ## Bodies -/

/-- The longest body that is read, in bytes. -/
def maxBodySize : Nat := 2097152

/-- Whether the length that a request announces is too large. -/
def Request.announcesTooMuch (r : Request) : Bool :=
  match (r.header? "content-length").bind Header.text? with
  | some digits =>
    match Text.parseNatural Text.maxUnsigned64 digits with
    | .ok n => maxBodySize < n
    | .error _ => false
  | none => false

/-- Whether a request declares its body to be JSON. -/
def Request.declaresJson (r : Request) : Bool :=
  match ((r.header? "content-type").bind Header.text?).bind MediaType.parse? with
  | some mediaType => mediaType.isJson
  | none => false

/-- The text of a JSON body. Bytes that are no text are put as an escape that stands for no
character, which is harmless only inside strings that nobody reads. -/
def bodyText (body : List UInt8) : String :=
  Text.Utf8.decodeWith "\\udc00" body

/-- The value that the body of a request holds. -/
def Request.json? {α : Type} [Json.Decode α] (r : Request) : Option α :=
  if !r.declaresJson || r.announcesTooMuch || maxBodySize < r.body.length then none
  else Json.read? (bodyText r.body)

/-! ## Queries -/

/-- The only value of a name in a query; the outer level is empty if there are several. -/
def uniqueValue? (name : String) (pairs : List (String × String)) : Option (Option String) :=
  match pairs.filter (·.1 == name) with
  | [] => some none
  | [(_, value)] => some (some value)
  | _ => none

/-- A number of 64 bits that a query may hold; the outer level is empty if what it holds is none. -/
def queryNumber? (name : String) (pairs : List (String × String)) : Option (Option UInt64) :=
  match uniqueValue? name pairs with
  | none => none
  | some none => some none
  | some (some value) =>
    match Text.parseNatural Text.maxUnsigned64 value with
    | .ok n => some (some (UInt64.ofNat n))
    | .error _ => none

/-- The window that the query of a list request asks for. -/
def windowOfQuery? (query : String) : Option Window :=
  let pairs := Url.Form.decode query
  match queryNumber? "limit" pairs, queryNumber? "start" pairs with
  | some limit, some start => some (.ofRequest limit start)
  | _, _ => none

end Http

end UserAccounts
