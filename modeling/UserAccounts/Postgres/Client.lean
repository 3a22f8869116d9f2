import UserAccounts.Postgres.Binary
import UserAccounts.Store.Call

/-!
# Clients of a database server

What the store asks of whatever holds the connections to the server: to prepare and run statements,
on some connection or on that of a transaction, and to begin and end transactions. Each request
comes with a deadline; a client stops waiting when it passes.
-/

namespace UserAccounts.Postgres

/-- Why a client failed to do what it was asked for. -/
inductive ClientError where
  /-- The connection was lost, or could not be made. -/
  | disconnected
  /-- No connection became free in time. -/
  | poolTimedOut
  | poolClosed
  /-- The server began a transaction, but did not say so. -/
  | notInTransaction
  /-- The server refused, with a code and a message. -/
  | refused (code message : String)
  deriving DecidableEq

namespace ClientError

/-- The wording of a failure. -/
def message : ClientError → String
  | .disconnected => "error communicating with database"
  | .poolTimedOut => "pool timed out while waiting for an open connection"
  | .poolClosed => "attempted to acquire a connection on a closed pool"
  | .notInTransaction => "got unexpected connection status after attempting to begin transaction"
  | .refused _ message => "error returned from database: " ++ message

/-- Whether the connection is at fault. -/
def isConnectionFailure : ClientError → Bool
  | .disconnected | .poolTimedOut | .poolClosed => true
  | .notInTransaction | .refused _ _ => false

end ClientError

/-- Where a statement is prepared and run. -/
inductive Target where
  /-- On any connection. -/
  | pool
  /-- On the connection of a transaction, by the number that the client gave it. -/
  | session (key : Nat)
  deriving DecidableEq

/-- The result of a statement. -/
structure ResultSet where
  columns : List Column
  rows : List (List Cell)
  /-- How many rows the server says were affected. -/
  affected : Nat
  deriving DecidableEq

/-- Something that a client is asked for. -/
inductive Request where
  | prepare (target : Target) (query : String)
  | run (target : Target) (query : String) (args : List SqlValue)
  | begin
  | commit (session : Nat)
  | rollback (session : Nat)
  deriving DecidableEq

/-- What comes of a request that succeeds. -/
abbrev Request.Reply : Request → Type
  | .prepare .. => Unit
  | .run .. => ResultSet
  | .begin => Nat
  | .commit _ | .rollback _ => Unit

/-- What comes of a request; nothing, if its deadline came first. -/
abbrev Request.Result (r : Request) : Type := Option (Except ClientError r.Reply)

/-- What serving a request comes to. -/
structure Handled (γ : Type) (r : Request) where
  result : r.Result
  state : γ
  finished : Instant

/-- A client: how it serves requests, and how it gives up a transaction that nobody will end. -/
structure Client (γ : Type) where
  serve : γ → Instant → Deadline → (r : Request) → Handled γ r
  abandon : γ → Instant → (session : Nat) → γ

end UserAccounts.Postgres
