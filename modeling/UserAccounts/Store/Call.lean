import UserAccounts.Store.Row
import UserAccounts.Text.Blank
import UserAccounts.Text.Uppercase
import UserAccounts.Time.Span

/-!
# Calls to the store

A `Call` is one request to a store: prepare a statement, outside or within a transaction, use or
close a prepared statement, begin a transaction or end it. `Call.Answer` is the type of what comes
back. Statements and transactions are named by keys that the store hands out; a statement also
carries its text and the transaction it belongs to.

`Call.label` is the name under which a call is counted.
-/

namespace UserAccounts

open Text (Inspect inspect)

/-- How strictly a transaction is kept apart from others. -/
inductive Isolation where
  | readCommitted
  | repeatableRead
  | serializable
  deriving DecidableEq

namespace Isolation

instance : Inspect Isolation where
  inspect
    | .readCommitted => "ReadCommitted"
    | .repeatableRead => "RepeatableRead"
    | .serializable => "Serializable"

/-- The level of a given name. -/
def ofName? (name : String) : Option Isolation :=
  [readCommitted, repeatableRead, serializable].find? (inspect · == name)

/-- The name of the level in statements. -/
def keyword : Isolation → String
  | .readCommitted => "READ COMMITTED"
  | .repeatableRead => "REPEATABLE READ"
  | .serializable => "SERIALIZABLE"

end Isolation

/-- How a transaction is begun. Without a level, the store's own is used. -/
structure BeginOptions where
  isolation : Option Isolation
  deriving DecidableEq

instance : Inspect BeginOptions where
  inspect options := Inspect.record "TxOptions" [("isolation", inspect options.isolation)]

/-- A transaction that a store has begun. -/
structure Transaction where
  key : Nat
  deriving DecidableEq

/-- What a store says of a statement that it has prepared. -/
structure Prepared where
  key : Nat
  query : String
  deriving DecidableEq

/-- A prepared statement. -/
structure Statement where
  key : Nat
  query : String
  within : Option Transaction
  deriving DecidableEq

/-- The statement that was prepared within a transaction or outside of any. -/
def Prepared.statement (p : Prepared) (within : Option Transaction) : Statement :=
  ⟨p.key, p.query, within⟩

/-- A request to a store. -/
inductive Call where
  | prepare (within : Option Transaction) (deadline : Deadline) (query : String)
  | begin (deadline : Deadline) (options : BeginOptions)
  /-- Run a statement for its effect; the answer is the number of rows affected. -/
  | exec (statement : Statement) (deadline : Deadline) (args : List SqlValue)
  | queryRow (statement : Statement) (deadline : Deadline) (args : List SqlValue)
  | queryRows (statement : Statement) (deadline : Deadline) (args : List SqlValue)
  | close (statement : Statement)
  | commit (transaction : Transaction)
  | rollback (transaction : Transaction)
  deriving DecidableEq

namespace Call

/-- What a successful call yields. -/
abbrev Reply : Call → Type
  | .prepare .. => Prepared
  | .begin .. => Transaction
  | .exec .. => Nat
  | .queryRow .. => Option Row
  | .queryRows .. => List Row
  | .close _ | .commit _ | .rollback _ => Unit

/-- What a call yields. -/
abbrev Answer (c : Call) : Type := Except StoreError c.Reply

/-- The name of a kind of call in reports. -/
def name : Call → String
  | .prepare .. => "prepare"
  | .begin .. => "begin_tx"
  | .exec .. => "exec"
  | .queryRow .. => "query_row"
  | .queryRows .. => "query_rows"
  | .close _ => "close"
  | .commit _ => "commit"
  | .rollback _ => "rollback"

/-- The statement text that a call is about; calls about transactions have none. -/
def queryText : Call → String
  | .prepare _ _ query => query
  | .exec s _ _ | .queryRow s _ _ | .queryRows s _ _ => s.query
  | .close s => s.query
  | .begin .. | .commit _ | .rollback _ => ""

/-- The arguments of a call as reports show them. -/
def shownArgs : Call → String
  | .begin _ options => inspect options
  | .exec _ _ args | .queryRow _ _ args | .queryRows _ _ args => inspect args
  | .prepare .. | .close _ | .commit _ | .rollback _ => "[]"

end Call

/-! ## Labels -/

/-- The label of a statement without any word. -/
def unknownLabel : String := "UNKNOWN"

/-- The label of a statement: its first word in capitals. -/
def statementLabel (query : String) : String :=
  match Text.firstWord? query with
  | some word => Text.upper word
  | none => unknownLabel

/-- The label under which a call is counted. -/
def Call.label : Call → String
  | .prepare .. => "PREPARE"
  | .begin .. => "BEGIN"
  | .exec s _ _ | .queryRow s _ _ | .queryRows s _ _ => statementLabel s.query
  | .close _ => "CLOSE"
  | .commit _ => "COMMIT"
  | .rollback _ => "ROLLBACK"

end UserAccounts
