import UserAccounts.Account.Id
import UserAccounts.Page.Window
import UserAccounts.Time.Timestamp

/-!
# User accounts

An account has a username and belongs to a user with a first and a last name. Both are made without
identifier and at the epoch; creating the account in the store assigns both, once.
-/

namespace UserAccounts

open Text (Inspect inspect)

/-- The person behind an account. -/
structure User where
  id : Id
  firstName : String
  lastName : String
  createdAt : Timestamp
  deriving DecidableEq

namespace User

/-- A user who is not in the store yet. -/
def new (firstName lastName : String) : User :=
  ⟨.unassigned, firstName, lastName, .epoch⟩

/-- The user as created under an identifier at a moment. -/
def assign (u : User) (id : Id) (moment : Timestamp) : User :=
  { u with id := id, createdAt := moment }

instance : Inspect User where
  inspect u := Inspect.record "User"
    [("id", inspect u.id), ("first_name", inspect u.firstName), ("last_name", inspect u.lastName),
      ("created_at", inspect u.createdAt)]

end User

/-- A user account. -/
structure Account where
  id : Id
  username : String
  user : User
  createdAt : Timestamp
  deriving DecidableEq

namespace Account

/-- An account that is not in the store yet. -/
def new (username : String) (user : User) : Account :=
  ⟨.unassigned, username, user, .epoch⟩

/-- The account as created under an identifier at a moment. -/
def assign (a : Account) (id : Id) (moment : Timestamp) : Account :=
  { a with id := id, createdAt := moment }

/-- The account with its user created under an identifier at a moment. -/
def assignUser (a : Account) (id : Id) (moment : Timestamp) : Account :=
  { a with user := a.user.assign id moment }

instance : Inspect Account where
  inspect a := Inspect.record "UserAccount"
    [("id", inspect a.id), ("username", inspect a.username), ("user", inspect a.user),
      ("created_at", inspect a.createdAt)]

end Account

/-- One page of accounts, in the order of their creation. -/
structure Listing where
  window : Window
  /-- The number of all accounts. -/
  total : Nat
  hasNext : Bool
  accounts : List Account
  deriving DecidableEq

instance : Inspect Listing where
  inspect l := Inspect.record "FindUserAccountsResult"
    [("options", inspect l.window), ("total", inspect l.total), ("has_next", inspect l.hasNext),
      ("data", inspect l.accounts)]

end UserAccounts
