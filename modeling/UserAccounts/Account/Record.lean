import UserAccounts.Account.Basic
import UserAccounts.Store.Row

/-!
# Accounts as rows

A row of the account queries holds, in this order, the account's identifier, username and time of
creation, and its user's identifier, first name, last name and time of creation.
-/

namespace UserAccounts

/-- The time in a column, kept as milliseconds. -/
def Row.timestamp (row : Row) (index : Nat) : Except StoreError Timestamp :=
  match row.integer index with
  | .error e => .error e
  | .ok n =>
    match Timestamp.ofMillis? n.toInt with
    | some t => .ok t
    | none =>
      .error (.decode s!"column {index} holds invalid timestamp {Text.integer n.toInt}")

/-- The account that a row holds. The user's columns are read before the account's own. -/
def Account.ofRow (row : Row) : Except StoreError Account := do
  let userId ← row.textAt 3
  let firstName ← row.textAt 4
  let lastName ← row.textAt 5
  let userCreatedAt ← row.timestamp 6
  let id ← row.textAt 0
  let username ← row.textAt 1
  let createdAt ← row.timestamp 2
  .ok ⟨⟨id⟩, username, ⟨⟨userId⟩, firstName, lastName, userCreatedAt⟩, createdAt⟩

/-- A time as it is bound to a statement. -/
def Timestamp.sqlValue (t : Timestamp) : SqlValue :=
  .int (Int64.ofInt t.millis)

/-- The values bound when a user is added. -/
def User.insertArgs (u : User) : List SqlValue :=
  [.text u.id.text, .text u.firstName, .text u.lastName, u.createdAt.sqlValue]

/-- The values bound when an account is added. -/
def Account.insertArgs (a : Account) : List SqlValue :=
  [.text a.id.text, .text a.username, .text a.user.id.text, a.createdAt.sqlValue]

end UserAccounts
