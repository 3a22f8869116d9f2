import UserAccounts.Postgres.Server
import UserAccounts.Postgres.Settings
import UserAccounts.Postgres.Store

/-!
# The connection pool

A client that serves requests on connections to a scripted server. There are at most so many
connections; a request for one waits until one is free, but not forever. Each connection remembers
the statements that were prepared on it. When a request is cut off by its deadline, the server goes
on with what it has received, and the connection is of no use before that is done: a transaction has
to wait for it, and a connection outside of transactions returns to the pool only then. A
transaction that was not ended properly is rolled back before its connection returns.

`Pool.client` is the client, and `PgStore.connect` the way to a store.
-/

namespace UserAccounts

namespace Postgres

/-- What becomes of a connection when the server has done what was cut off. -/
inductive Fate where
  | sound
  /-- The next request fails with what the server has said meanwhile. -/
  | failing (e : ClientError)
  | lost
  deriving DecidableEq

/-- A connection. -/
structure Link where
  /-- The statements prepared on it with their columns, the latest first. -/
  statements : List (String × List Column)
  /-- When the server has done all it was asked for on this connection. -/
  readyAt : Instant
  fate : Fate

/-- The fate that follows from what the server does with a request that was cut off. -/
def Fate.after {α : Type} : Except ClientError α → Fate
  | .ok _ => .sound
  | .error .disconnected => .lost
  | .error e => .failing e

/-- What came of a request on a connection. -/
structure Attempt (α : Type) where
  result : Option (Except ClientError α)
  link : Link
  server : Server
  finished : Instant

/-- The later of two points of time. -/
def later (a b : Instant) : Instant :=
  if a ≤ b then b else a

/-- When an answer that comes at some time is there, and whether the deadline allows to wait for
it. A deadline that has passed allows no waiting at all. -/
def awaitAnswer (deadline : Deadline) (now ready : Instant) : Instant × Bool :=
  if deadline.isExpired now then (now, false) else deadline.await now ready

namespace Link

/-- A connection that has just been made. -/
def fresh (now : Instant) : Link := ⟨[], now, .sound⟩

/-- Make a request on a connection once the server has done what came before. -/
def whenReady {α : Type} (link : Link) (server : Server) (now : Instant) (deadline : Deadline)
    (go : Instant → Attempt α) : Attempt α :=
  let (start, inTime) := deadline.await now (later now link.readyAt)
  if !inTime then ⟨none, link, server, start⟩
  else
    match link.fate with
    | .sound => go start
    | .failing e => ⟨some (.error e), { link with fate := .sound }, server, start⟩
    | .lost => ⟨some (.error .disconnected), link, server, start⟩

/-- The columns of a statement, if it has been prepared on the connection. -/
def prepared? (link : Link) (query : String) : Option (List Column) :=
  link.statements.lookup query

/-- Remember a statement as the latest; no more than `capacity` are remembered. -/
def remember (link : Link) (capacity : Nat) (query : String) (columns : List Column) : Link :=
  { link with
    statements := ((query, columns) :: link.statements.filter (·.1 != query)).take capacity }

/-- Prepare a statement on a connection that is ready, unless it has been prepared before. -/
def prepare (link : Link) (server : Server) (capacity : Nat) (now : Instant) (deadline : Deadline)
    (query : String) : Attempt (List Column) :=
  match link.prepared? query with
  | some columns => ⟨some (.ok columns), link.remember capacity query columns, server, now⟩
  | none =>
    if deadline.isExpired now then ⟨none, link, server, now⟩
    else
      let rule := server.rule query
      match rule.prepareError with
      | some refusal => ⟨some (.error refusal.error), link, server, now⟩
      | none =>
        ⟨some (.ok rule.columns), link.remember capacity query rule.columns, server, now⟩

/-- Wait for what the server makes of something that it takes some time for. -/
def awaitOutcome {α : Type} (link : Link) (server : Server) (now : Instant) (deadline : Deadline)
    (delay : Span) (outcome : Except ClientError α) : Attempt α :=
  let done := now.after delay
  let (finished, inTime) := awaitAnswer deadline now done
  if inTime then
    ⟨some outcome,
      match outcome with
      | .error .disconnected => { link with fate := .lost }
      | _ => link,
      server, finished⟩
  else ⟨none, { link with readyAt := done, fate := .after outcome }, server, finished⟩

/-- Run a statement on a connection that is ready, preparing it first if need be. -/
def run (link : Link) (server : Server) (capacity : Nat) (now : Instant) (deadline : Deadline)
    (query : String) (args : List SqlValue) : Attempt ResultSet :=
  let prepared := link.prepare server capacity now deadline query
  match prepared.result with
  | none => ⟨none, prepared.link, prepared.server, prepared.finished⟩
  | some (.error e) => ⟨some (.error e), prepared.link, prepared.server, prepared.finished⟩
  | some (.ok columns) =>
    let rule := server.rule query
    prepared.link.awaitOutcome (server.takeExecution query args) now deadline rule.delay
      (rule.outcome columns)

/-- The phase after a command that succeeded. -/
def phaseAfter (text : String) (rule : Rule) : Phase :=
  rule.phase.getD (if text == "BEGIN" then .active else .idle)

/-- Give a command on a connection that is ready; the answer is the phase after it. -/
def command (link : Link) (server : Server) (now : Instant) (deadline : Deadline) (text : String) :
    Attempt Phase :=
  let rule := server.rule text
  link.awaitOutcome (server.takeCommand text) now deadline rule.delay
    ((rule.outcome []).map fun _ => phaseAfter text rule)

end Link

/-- The connections to a server. -/
structure Pool where
  server : Server
  /-- The largest number of connections. -/
  size : Nat
  /-- How long a request may wait for a connection. -/
  patience : Span
  /-- How many statements a connection remembers. -/
  capacity : Nat
  isClosed : Bool
  /-- The connections in the pool, and on their way to it, in the order in which they are ready. -/
  idle : List Link
  /-- The connections of transactions, by number. -/
  held : List (Nat × Link)
  /-- How many transactions were begun. -/
  begun : Nat

namespace Pool

/-! ## Getting and returning connections -/

/-- Put a connection among others behind all that are ready no later. -/
def insertLink (link : Link) : List Link → List Link
  | [] => [link]
  | other :: rest =>
    if link.readyAt < other.readyAt then link :: other :: rest else other :: insertLink link rest

/-- A connection after rolling back what is still open on it. -/
def rolledBack (p : Pool) (link : Link) : Link :=
  let rule := p.server.rule "ROLLBACK"
  match link.fate, rule.outcome [] with
  | .sound, .ok _ => { link with readyAt := link.readyAt.after rule.delay }
  | _, _ => { link with fate := .lost }

/-- Return a connection, after rolling back if there is an open transaction on it. -/
def release (p : Pool) (now : Instant) (isOpen : Bool) (link : Link) : Pool :=
  let link := { link with readyAt := later now link.readyAt }
  { p with idle := insertLink (if isOpen then p.rolledBack link else link) p.idle }

/-- How many connections are in use at some time. -/
def inUse (p : Pool) (now : Instant) : Nat :=
  p.held.length + (p.idle.filter fun link => now < link.readyAt).length

/-- When a connection may be had, at the earliest, if none has to be waited for too long. -/
def freeAt? (p : Pool) (now : Instant) : Option Instant :=
  if p.inUse now < p.size then some now
  else
    match p.idle.find? fun link => now < link.readyAt with
    | some link => if link.readyAt ≤ now.after p.patience then some link.readyAt else none
    | none => none

/-- Take a connection that is ready, or make one. Those that were lost are thrown away. -/
def takeLink (p : Pool) (now : Instant) : Link × Pool :=
  let kept := p.idle.filter fun link => now < link.readyAt || link.fate == .sound
  match kept with
  | [] => (.fresh now, { p with idle := [] })
  | link :: rest =>
    if link.readyAt ≤ now then (link, { p with idle := rest })
    else (.fresh now, { p with idle := kept })

/-- What came of asking for a connection. -/
structure Acquired where
  result : Option (Except ClientError Link)
  pool : Pool
  finished : Instant

/-- Get a connection. -/
def acquire (p : Pool) (now : Instant) (deadline : Deadline) : Acquired :=
  if p.isClosed then ⟨some (.error .poolClosed), p, now⟩
  else
    let free := p.freeAt? now
    let (finished, inTime) := awaitAnswer deadline now (free.getD (now.after p.patience))
    if !inTime then ⟨none, p, finished⟩
    else
      match free with
      | none => ⟨some (.error .poolTimedOut), p, finished⟩
      | some _ =>
        let (link, p) := p.takeLink finished
        ⟨some (.ok link), p, finished⟩

/-! ## Requests -/

/-- Make a request on a connection of the pool and return it. -/
def onPool {α : Type} (p : Pool) (now : Instant) (deadline : Deadline)
    (go : Link → Server → Instant → Attempt α) :
    Option (Except ClientError α) × Pool × Instant :=
  let acquired := p.acquire now deadline
  match acquired.result with
  | none => (none, acquired.pool, acquired.finished)
  | some (.error e) => (some (.error e), acquired.pool, acquired.finished)
  | some (.ok link) =>
    let attempt := go link acquired.pool.server acquired.finished
    (attempt.result,
      { acquired.pool with server := attempt.server }.release attempt.finished false attempt.link,
      attempt.finished)

/-- Make a request on the connection of a transaction, which keeps it. -/
def onSession {α : Type} (p : Pool) (now : Instant) (deadline : Deadline) (session : Nat)
    (go : Link → Server → Instant → Attempt α) :
    Option (Except ClientError α) × Pool × Instant :=
  match p.held.lookup session with
  | none => (some (.error .disconnected), p, now)
  | some link =>
    let attempt := link.whenReady p.server now deadline (go link p.server)
    (attempt.result,
      { p with
        server := attempt.server
        held := p.held.map fun (key, other) =>
          if key == session then (key, attempt.link) else (key, other) },
      attempt.finished)

/-- Make a request where it belongs. -/
def onTarget {α : Type} (p : Pool) (now : Instant) (deadline : Deadline)
    (go : Link → Server → Instant → Attempt α) : Target →
    Option (Except ClientError α) × Pool × Instant
  | .pool => p.onPool now deadline go
  | .session key => p.onSession now deadline key go

/-- Give the connection of a transaction back. -/
def letGo (p : Pool) (now : Instant) (isOpen : Bool) (session : Nat) : Pool :=
  match p.held.lookup session with
  | none => p
  | some link =>
    { p with held := p.held.filter (·.1 != session) }.release now isOpen link

/-- End a transaction by a command. If that fails, it is rolled back before its connection is used
again. -/
def finish (p : Pool) (now : Instant) (deadline : Deadline) (session : Nat) (text : String) :
    Option (Except ClientError Unit) × Pool × Instant :=
  let (result, p, finished) :=
    p.onSession now deadline session fun link server start =>
      link.command server start deadline text
  let isOpen := match result with
    | some (.ok _) => false
    | _ => true
  (result.map fun outcome => outcome.map fun _ => (), p.letGo finished isOpen session, finished)

/-- Begin a transaction on a connection of the pool. -/
def begin (p : Pool) (now : Instant) (deadline : Deadline) :
    Option (Except ClientError Nat) × Pool × Instant :=
  let acquired := p.acquire now deadline
  match acquired.result with
  | none => (none, acquired.pool, acquired.finished)
  | some (.error e) => (some (.error e), acquired.pool, acquired.finished)
  | some (.ok link) =>
    let attempt := link.command acquired.pool.server acquired.finished deadline "BEGIN"
    let p := { acquired.pool with server := attempt.server }
    let giveUp := fun (result : Option (Except ClientError Nat)) =>
      (result, p.release attempt.finished true attempt.link, attempt.finished)
    match attempt.result with
    | some (.ok .active) =>
      (some (.ok p.begun),
        { p with held := (p.begun, attempt.link) :: p.held, begun := p.begun + 1 },
        attempt.finished)
    | some (.ok _) => giveUp (some (.error .notInTransaction))
    | some (.error e) => giveUp (some (.error e))
    | none => giveUp none

/-- What serving a request came to. -/
def handled {r : Request} (served : r.Result × Pool × Instant) : Handled Pool r :=
  ⟨served.1, served.2.1, served.2.2⟩

/-- Serve a request. -/
def serve (p : Pool) (now : Instant) (deadline : Deadline) : (r : Request) → Handled Pool r
  | .prepare target query =>
    let (result, p, finished) := p.onTarget now deadline
      (fun link server start => link.prepare server p.capacity start deadline query) target
    ⟨result.map fun outcome => outcome.map fun _ => (), p, finished⟩
  | .run target query args =>
    handled (p.onTarget now deadline
      (fun link server start => link.run server p.capacity start deadline query args) target)
  | .begin => handled (p.begin now deadline)
  | .commit session => handled (p.finish now deadline session "COMMIT")
  | .rollback session => handled (p.finish now deadline session "ROLLBACK")

/-- The pool as a client. -/
def client : Client Pool where
  serve := serve
  abandon p now session := p.letGo now true session

/-- Close the connections that are not in use, and hand out no more. -/
def close (p : Pool) : Pool :=
  { p with isClosed := true, idle := [] }

/-- A pool without connections. -/
def new (server : Server) (settings : StoreSettings) (options : Options) : Pool where
  server := server
  size := settings.maxConnections
  patience := settings.acquireTimeout
  capacity := options.cacheCapacity
  isClosed := false
  idle := []
  held := []
  begun := 0

end Pool

end Postgres

namespace PgStore

open Postgres

/-- What came of connecting: a store at some time, and what was reported. -/
structure Connected where
  store : PgStore Pool
  finished : Instant
  events : List Event

/-- The statement by which a connection is tried out. -/
def probe : String := "SELECT 1"

/-- Whether the first connection can be made. A pool without room does not even try. -/
def canOpen (pool : Pool) (options : Options) : Except ClientError Unit :=
  if pool.size = 0 then .error .poolTimedOut else pool.server.accept options

/-- Make a connection and try it out. -/
def tryOut (pool : Pool) (options : Options) (now : Instant) :
    Except ClientError (Pool × Instant) :=
  match canOpen pool options with
  | .error e => .error e
  | .ok _ =>
    let handled := pool.serve now .none (.run .pool probe [])
    match handled.result with
    | some (.error e) => .error e
    | _ => .ok (handled.state, handled.finished)

/-- Connect to a server. -/
def connect (server : Server) (settings : StoreSettings) (now : Instant) :
    Except StoreError Connected :=
  match Options.ofUrl settings.databaseUrl with
  | .error e => .error (.connection e.message)
  | .ok options =>
    match tryOut (.new server settings options) options now with
    | .error e => .error (connectionFailed e).error
    | .ok (pool, finished) =>
      .ok ⟨⟨options.databaseName, options.user, pool, [], 0, []⟩, finished,
        [.storeConnected options.databaseName options.user]⟩

end PgStore

end UserAccounts
