import UserAccounts.Text.Inspect

/-!
# Failures of the store

The ways in which a call to the store fails, with their wording.
-/

namespace UserAccounts

open Text (Inspect inspect)

/-- Why a call to the store failed. -/
inductive StoreError where
  /-- The store could not be reached, or no connection was free in time. -/
  | connection (message : String)
  /-- The text of a statement was refused. -/
  | syntaxError (message : String)
  /-- Running a statement failed. -/
  | query (message : String)
  | commit (message : String)
  | rollback (message : String)
  /-- The deadline of the call came before the answer. -/
  | deadlineExceeded
  /-- A value of a row is not of the type it was asked for. -/
  | decode (message : String)
  /-- The transaction has ended already. -/
  | transactionDone
  /-- The statement has been closed already. -/
  | statementClosed
  deriving DecidableEq

namespace StoreError

/-- The wording of a failure. -/
def message : StoreError → String
  | .connection cause => "store connection failed: " ++ cause
  | .syntaxError cause => "failed to prepare statement: " ++ cause
  | .query cause => "query failed: " ++ cause
  | .commit cause => "commit failed: " ++ cause
  | .rollback cause => "rollback failed: " ++ cause
  | .deadlineExceeded => "store call exceeded its deadline"
  | .decode cause => "failed to decode row: " ++ cause
  | .transactionDone => "transaction has already been committed or rolled back"
  | .statementClosed => "statement has already been closed"

/-- The name of a kind of failure. -/
def name : StoreError → String
  | .connection _ => "Connection"
  | .syntaxError _ => "Syntax"
  | .query _ => "Query"
  | .commit _ => "Commit"
  | .rollback _ => "Rollback"
  | .deadlineExceeded => "DeadlineExceeded"
  | .decode _ => "Decode"
  | .transactionDone => "TransactionDone"
  | .statementClosed => "StatementClosed"

/-- The failure of a given name; the cause counts only where failures of that kind have one. -/
def ofName? (name cause : String) : Option StoreError :=
  [connection cause, syntaxError cause, query cause, commit cause, rollback cause, deadlineExceeded,
    decode cause, transactionDone, statementClosed].find? (·.name == name)

/-- What a failure says beyond its kind. -/
def cause? : StoreError → Option String
  | .connection cause | .syntaxError cause | .query cause | .commit cause | .rollback cause
  | .decode cause => some cause
  | .deadlineExceeded | .transactionDone | .statementClosed => none

instance : Inspect StoreError where
  inspect e :=
    match e.cause? with
    | some cause => Inspect.record e.name [("message", inspect cause)]
    | none => e.name

end StoreError

end UserAccounts
