import UserAccounts.Postgres.Client
import UserAccounts.World

/-!
# The store on a database

The store keeps track of the transactions and statements it has handed out and passes on to its
client what may be passed on. A transaction ends with the first call to commit or to roll it back,
whatever comes of that call; after that, calls on it and on its statements are refused. A statement
that has been closed is refused first of all.

A commit is bounded by the deadline that its transaction was begun with, and a rollback by a time of
its own, because it is usually called for when that deadline has passed.
-/

namespace UserAccounts

open Text (Inspect inspect)

namespace Postgres

/-- How long a rollback may take. -/
def rollbackTimeout : Span := .ofMillis 1000

/-- A transaction that was handed out. -/
structure Handle where
  /-- The number that the client gave it. -/
  session : Nat
  /-- The deadline that it was begun with. -/
  deadline : Deadline
  ended : Bool
  deriving DecidableEq

end Postgres

/-- A store on a database, with the state of its client. -/
structure PgStore (γ : Type) where
  database : String
  user : String
  client : γ
  /-- The transactions handed out, by key. -/
  transactions : List Postgres.Handle
  /-- The number of statements handed out. -/
  statements : Nat
  /-- The keys of the statements that were closed. -/
  closed : List Nat

namespace PgStore

open Postgres

instance {γ : Type} : Inspect (PgStore γ) where
  inspect s :=
    "PgStore \x7b " ++ Inspect.commaSeparated
      ["db_name: " ++ inspect s.database, "db_user: " ++ inspect s.user, ".."] ++ " \x7d"

/-! ## Failures -/

/-- A failure of the store with what is reported about it. -/
structure Reported where
  error : StoreError
  events : List Event

/-- A failure of the connection, which is reported. -/
def connectionFailed (e : ClientError) : Reported :=
  ⟨.connection e.message, [.storeConnectionFailed e.message]⟩

/-- Whether a code is of the class of texts that the server does not understand. -/
def isSyntaxCode (code : String) : Bool :=
  ['4', '2'].isPrefixOf code.toList

/-- A failure to prepare a statement. -/
def prepareFailed (e : ClientError) : Reported :=
  if e.isConnectionFailure then connectionFailed e
  else
    match e with
    | .refused code message =>
      if isSyntaxCode code then ⟨.syntaxError message, []⟩ else ⟨.query e.message, []⟩
    | _ => ⟨.query e.message, []⟩

/-- A failure to run a statement. -/
def runFailed (e : ClientError) : Reported :=
  if e.isConnectionFailure then connectionFailed e else ⟨.query e.message, []⟩

/-- A failure to commit. -/
def commitFailed (e : ClientError) : Reported := ⟨.commit e.message, []⟩

/-- A failure to roll back. -/
def rollbackFailed (e : ClientError) : Reported := ⟨.rollback e.message, []⟩

/-- What the result of a request means to the store. -/
def settle {α : Type} (failed : ClientError → Reported) :
    Option (Except ClientError α) → Except StoreError α × List Event
  | none => (.error .deadlineExceeded, [])
  | some (.ok a) => (.ok a, [])
  | some (.error e) => (.error (failed e).error, (failed e).events)

/-! ## Serving calls -/

variable {γ : Type}

/-- What came of passing a request on. -/
structure Passed (γ α : Type) where
  answer : Except StoreError α
  store : PgStore γ
  finished : Instant
  events : List Event

/-- Pass a request on to the client. -/
def pass (client : Client γ) (s : PgStore γ) (now : Instant) (deadline : Deadline) (r : Request)
    (failed : ClientError → Reported) : Passed γ r.Reply :=
  let handled := client.serve s.client now deadline r
  let (answer, events) := settle failed handled.result
  ⟨answer, { s with client := handled.state }, handled.finished, events⟩

/-- A call that is refused without a request. -/
def refuse (s : PgStore γ) (now : Instant) (c : Call) (e : StoreError) : Served (PgStore γ) c :=
  ⟨.error e, s, now, []⟩

/-- The transaction of a key, unless it has ended. -/
def live? (s : PgStore γ) (tx : Transaction) : Option Handle :=
  match s.transactions[tx.key]? with
  | some handle => if handle.ended then none else some handle
  | none => none

/-- End the transaction of a key. -/
def finish (s : PgStore γ) (tx : Transaction) : PgStore γ :=
  { s with
    transactions := s.transactions.modify tx.key fun handle => { handle with ended := true } }

/-- Where the statements of a transaction or of none are run, unless the transaction has ended. -/
def target? (s : PgStore γ) : Option Transaction → Except StoreError Target
  | none => .ok .pool
  | some tx =>
    match s.live? tx with
    | some handle => .ok (.session handle.session)
    | none => .error .transactionDone

/-- Where a statement is run, unless it has been closed or its transaction has ended. -/
def targetOf? (s : PgStore γ) (statement : Statement) : Except StoreError Target :=
  if s.closed.contains statement.key then .error .statementClosed
  else s.target? statement.within

/-- Hand out the statement that was prepared. -/
def handOut (query : String) (p : Passed γ Unit) : Passed γ Prepared :=
  match p.answer with
  | .ok _ =>
    ⟨.ok ⟨p.store.statements, query⟩, { p.store with statements := p.store.statements + 1 },
      p.finished, p.events⟩
  | .error e => ⟨.error e, p.store, p.finished, p.events⟩

/-- The statement that sets the level of a transaction. -/
def isolationStatement (level : Isolation) : String :=
  "SET TRANSACTION ISOLATION LEVEL " ++ level.keyword

/-- Hand out the transaction of a session. -/
def handOutTransaction (deadline : Deadline) (session : Nat) (p : Passed γ Unit) :
    Passed γ Transaction :=
  match p.answer with
  | .ok _ =>
    ⟨.ok ⟨p.store.transactions.length⟩,
      { p.store with transactions := p.store.transactions ++ [⟨session, deadline, false⟩] },
      p.finished, p.events⟩
  | .error e => ⟨.error e, p.store, p.finished, p.events⟩

/-- Set the level of the transaction of a session, which is given up if that fails. -/
def configure (client : Client γ) (s : PgStore γ) (now : Instant) (deadline : Deadline)
    (session : Nat) (options : BeginOptions) : Passed γ Unit :=
  match options.isolation with
  | none => ⟨.ok (), s, now, []⟩
  | some level =>
    let passed :=
      pass client s now deadline (.run (.session session) (isolationStatement level) []) runFailed
    match passed.answer with
    | .ok _ => ⟨.ok (), passed.store, passed.finished, passed.events⟩
    | .error e =>
      ⟨.error e, { passed.store with
        client := client.abandon passed.store.client passed.finished session },
        passed.finished, passed.events⟩

/-- Begin a transaction. -/
def begin (client : Client γ) (s : PgStore γ) (now : Instant) (deadline : Deadline)
    (options : BeginOptions) : Passed γ Transaction :=
  let passed := pass client s now deadline .begin connectionFailed
  match passed.answer with
  | .ok session =>
    let configured := configure client passed.store passed.finished deadline session options
    handOutTransaction deadline session
      { configured with events := passed.events ++ configured.events }
  | .error e => ⟨.error e, passed.store, passed.finished, passed.events⟩

/-- Run a statement and read its result. -/
def run {α : Type} (client : Client γ) (s : PgStore γ) (now : Instant) (deadline : Deadline)
    (target : Target) (query : String) (args : List SqlValue)
    (read : ResultSet → Except StoreError α) : Passed γ α :=
  let passed := pass client s now deadline (.run target query args) runFailed
  ⟨passed.answer.bind read, passed.store, passed.finished, passed.events⟩

/-- The first row of a result. -/
def readFirst (r : ResultSet) : Except StoreError (Option Row) :=
  match r.rows with
  | [] => .ok none
  | cells :: _ => (decodeRow r.columns cells).map some

/-- All rows of a result. -/
def readAll (r : ResultSet) : Except StoreError (List Row) :=
  decodeRows r.columns r.rows

/-- What passing a call on comes to. -/
def Passed.served {c : Call} (p : Passed γ c.Reply) : Served (PgStore γ) c :=
  ⟨p.answer, p.store, p.finished, p.events⟩

/-- Serve a call. -/
def serve (client : Client γ) (s : PgStore γ) (now : Instant) : (c : Call) → Served (PgStore γ) c
  | .prepare within deadline query =>
    match s.target? within with
    | .error e => refuse s now _ e
    | .ok target =>
      (handOut query (pass client s now deadline (.prepare target query) prepareFailed)).served
  | .begin deadline options => (begin client s now deadline options).served
  | .exec statement deadline args =>
    match s.targetOf? statement with
    | .error e => refuse s now _ e
    | .ok target =>
      (run client s now deadline target statement.query args fun r => .ok r.affected).served
  | .queryRow statement deadline args =>
    match s.targetOf? statement with
    | .error e => refuse s now _ e
    | .ok target => (run client s now deadline target statement.query args readFirst).served
  | .queryRows statement deadline args =>
    match s.targetOf? statement with
    | .error e => refuse s now _ e
    | .ok target => (run client s now deadline target statement.query args readAll).served
  | .close statement =>
    if s.closed.contains statement.key then refuse s now _ .statementClosed
    else ⟨.ok (), { s with closed := statement.key :: s.closed }, now, []⟩
  | .commit tx =>
    match s.live? tx with
    | none => refuse s now _ .transactionDone
    | some handle =>
      (pass client (s.finish tx) now handle.deadline (.commit handle.session) commitFailed).served
  | .rollback tx =>
    match s.live? tx with
    | none => refuse s now _ .transactionDone
    | some handle =>
      (pass client (s.finish tx) now (.after now rollbackTimeout) (.rollback handle.session)
        rollbackFailed).served

/-- The store as the world sees it. -/
def backend (client : Client γ) : Backend (PgStore γ) where
  serve := serve client

end PgStore

end UserAccounts
