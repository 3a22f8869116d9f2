import UserAccounts.Store.Call
import UserAccounts.Text.Fragment

/-!
# The store in memory

A store that knows no SQL: it keeps a record of every call, answers statements from a script, and
keeps track of which writes were committed. Writes outside of transactions are committed at once;
those of a transaction when its commit succeeds.

A call is served in two steps, so that calls of several clients can overlap: `Memory.receive`
records it and refuses it or says how long it takes, and `Memory.settle` answers it once that time
has passed. `Memory.serve` is the one after the other.
-/

namespace UserAccounts

/-- A call as the record shows it. -/
inductive Observed where
  | prepare (query : String) (inTransaction : Bool)
  | begin
  | exec (query : String) (args : List SqlValue)
  | queryRow (query : String) (args : List SqlValue)
  | queryRows (query : String) (args : List SqlValue)
  | close (query : String)
  | commit
  | rollback
  deriving DecidableEq

/-- What the record shows of a call. -/
def Call.observed : Call → Observed
  | .prepare within _ query => .prepare query within.isSome
  | .begin .. => .begin
  | .exec s _ args => .exec s.query args
  | .queryRow s _ args => .queryRow s.query args
  | .queryRows s _ args => .queryRows s.query args
  | .close s => .close s.query
  | .commit _ => .commit
  | .rollback _ => .rollback

/-- What a script says about a statement. -/
inductive Scripted where
  | rows (rows : List Row)
  | affected (count : Nat)
  | fail (e : StoreError)
  deriving DecidableEq

/-- The kinds of calls that can be made to fail whatever they are about. -/
inductive Operation where
  | prepare
  | begin
  | commit
  | rollback
  | close
  deriving DecidableEq

/-- The kind of calls of a given name. -/
def Operation.ofName? : String → Option Operation
  | "Prepare" => some .prepare
  | "BeginTx" => some .begin
  | "Commit" => some .commit
  | "Rollback" => some .rollback
  | "Close" => some .close
  | _ => none

/-- A transaction of the store in memory. -/
structure OpenTransaction where
  deadline : Deadline
  /-- The writes made so far. -/
  pending : List Observed
  done : Bool
  deriving DecidableEq

/-- The store in memory. -/
structure Memory where
  calls : List Observed
  committed : List Observed
  begun : List BeginOptions
  /-- The transactions, by key. -/
  transactions : List OpenTransaction
  /-- How many statements were prepared. -/
  statements : Nat
  /-- The keys of closed statements. -/
  closed : List Nat
  /-- Fragments of statement texts with what the script says about them; the first match counts. -/
  script : List (String × Scripted)
  failures : List (Operation × StoreError)
  latency : Option Span
  commitLatency : Option Span

/-- What comes of a call at first: an answer, or the need to wait until some time, at which the call
will have been completed in time or not. -/
inductive Reception (c : Call) where
  | answered (answer : c.Answer)
  | waiting (until_ : Instant) (inTime : Bool)

namespace Memory

/-- A store without script. -/
def empty : Memory where
  calls := []
  committed := []
  begun := []
  transactions := []
  statements := 0
  closed := []
  script := []
  failures := []
  latency := none
  commitLatency := none

/-- Answer statements that contain a fragment as scripted, unless an earlier entry matches too. -/
def respond (m : Memory) (fragment : String) (answer : Scripted) : Memory :=
  { m with script := m.script ++ [(fragment, answer)] }

/-- Make every call of a kind fail, in place of what was said about it before. -/
def fail (m : Memory) (operation : Operation) (e : StoreError) : Memory :=
  { m with failures := (operation, e) :: m.failures }

/-- What the script says about a statement. -/
def scripted? (m : Memory) (query : String) : Option Scripted :=
  (m.script.find? fun entry => Text.containsFragment entry.1 query).map (·.2)

/-- The failure that calls of a kind are made to have. -/
def failureOf? (m : Memory) (operation : Operation) : Option StoreError :=
  m.failures.lookup operation

/-- How often a call was made. -/
def count (m : Memory) (call : Observed) : Nat :=
  m.calls.count call

/-- Change the transaction of a key. -/
def modifyTransaction (m : Memory) (key : Nat) (f : OpenTransaction → OpenTransaction) : Memory :=
  { m with transactions := m.transactions.modify key f }

/-- Whether a transaction has ended; one that was never begun counts as ended. -/
def isDone (m : Memory) (tx : Transaction) : Bool :=
  match m.transactions[tx.key]? with
  | some t => t.done
  | none => true

/-- The deadline that a transaction was begun with. -/
def deadlineOf (m : Memory) (tx : Transaction) : Deadline :=
  match m.transactions[tx.key]? with
  | some t => t.deadline
  | none => .none

/-- Wait for some time, or until a deadline. -/
def delay {c : Call} (now : Instant) (deadline : Deadline) : Option Span → Reception c
  | none => .waiting now true
  | some latency =>
    let (until_, inTime) := deadline.await now (now.after latency)
    .waiting until_ inTime

/-- Hand out a prepared statement, unless the deadline has passed or preparing is made to fail. -/
def handOut (m : Memory) (now : Instant) (deadline : Deadline) (query : String) :
    Except StoreError Prepared × Memory :=
  if deadline.isExpired now then (.error .deadlineExceeded, m)
  else
    match m.failureOf? .prepare with
    | some e => (.error e, m)
    | none => (.ok ⟨m.statements, query⟩, { m with statements := m.statements + 1 })

/-- Begin a transaction, unless the deadline has passed or beginning is made to fail. -/
def handOutTransaction (m : Memory) (now : Instant) (deadline : Deadline) :
    Except StoreError Transaction × Memory :=
  if deadline.isExpired now then (.error .deadlineExceeded, m)
  else
    match m.failureOf? .begin with
    | some e => (.error e, m)
    | none =>
      (.ok ⟨m.transactions.length⟩,
        { m with transactions := m.transactions ++ [⟨deadline, [], false⟩] })

/-- The outcome of a kind of call that succeeds unless it is made to fail. -/
def unlessFailing (m : Memory) (operation : Operation) : Except StoreError Unit :=
  match m.failureOf? operation with
  | some e => .error e
  | none => .ok ()

/-- Begin to run a statement: a closed one is refused, any other takes its time. -/
def startRun {c : Call} (refused : c.Answer) (m : Memory) (now : Instant) (s : Statement)
    (deadline : Deadline) : Reception c :=
  if m.closed.contains s.key then .answered refused else delay now deadline m.latency

/-- Record a call, and answer it or say how long it takes. -/
def receive (m : Memory) (now : Instant) (c : Call) : Reception c × Memory :=
  let m := { m with calls := m.calls ++ [c.observed] }
  match c with
  | .prepare none deadline query =>
    let (answer, m) := m.handOut now deadline query
    (.answered answer, m)
  | .prepare (some tx) deadline query =>
    if m.isDone tx then (.answered (.error .transactionDone), m)
    else
      let (answer, m) := m.handOut now deadline query
      (.answered answer, m)
  | .begin deadline options =>
    let (answer, m) := { m with begun := m.begun ++ [options] }.handOutTransaction now deadline
    (.answered answer, m)
  | .exec s deadline _ => (m.startRun (.error .statementClosed) now s deadline, m)
  | .queryRow s deadline _ => (m.startRun (.error .statementClosed) now s deadline, m)
  | .queryRows s deadline _ => (m.startRun (.error .statementClosed) now s deadline, m)
  | .close s =>
    let m := { m with closed := s.key :: m.closed }
    (.answered (m.unlessFailing .close), m)
  | .commit tx =>
    if m.isDone tx then (.answered (.error .transactionDone), m)
    else
      let m := m.modifyTransaction tx.key fun t => { t with done := true }
      (delay now (m.deadlineOf tx) m.commitLatency, m)
  | .rollback tx =>
    if m.isDone tx then (.answered (.error .transactionDone), m)
    else
      let m := m.modifyTransaction tx.key fun t => { t with done := true, pending := [] }
      (.answered (m.unlessFailing .rollback), m)

/-- What the script says about a statement that has run, unless its deadline has passed by now. -/
def runScript (m : Memory) (now : Instant) (deadline : Deadline) (query : String) :
    Except StoreError (Option Scripted) :=
  if deadline.isExpired now then .error .deadlineExceeded
  else
    match m.scripted? query with
    | some (.fail e) => .error e
    | answer => .ok answer

/-- Keep a write: with its transaction, or among what is committed. -/
def keepWrite (m : Memory) (s : Statement) (write : Observed) : Memory :=
  match s.within with
  | some tx => m.modifyTransaction tx.key fun t => { t with pending := t.pending ++ [write] }
  | none => { m with committed := m.committed ++ [write] }

/-- The number of rows that a run for effect reports. -/
def affectedRows : Option Scripted → Nat
  | some (.affected count) => count
  | some (.rows rows) => rows.length
  | _ => 1

/-- The rows that a run yields. -/
def resultRows : Option Scripted → List Row
  | some (.rows rows) => rows
  | _ => []

/-- Answer a call whose waiting is over. -/
def settle (m : Memory) (now : Instant) (inTime : Bool) : (c : Call) → c.Answer × Memory
  | .exec s deadline args =>
    if !inTime then (.error .deadlineExceeded, m)
    else
      match m.runScript now deadline s.query with
      | .error e => (.error e, m)
      | .ok answer => (.ok (affectedRows answer), m.keepWrite s (.exec s.query args))
  | .queryRow s deadline _ =>
    if !inTime then (.error .deadlineExceeded, m)
    else
      match m.runScript now deadline s.query with
      | .error e => (.error e, m)
      | .ok answer => (.ok (resultRows answer).head?, m)
  | .queryRows s deadline _ =>
    if !inTime then (.error .deadlineExceeded, m)
    else
      match m.runScript now deadline s.query with
      | .error e => (.error e, m)
      | .ok answer => (.ok (resultRows answer), m)
  | .commit tx =>
    if !inTime || (m.deadlineOf tx).isExpired now then (.error .deadlineExceeded, m)
    else
      match m.failureOf? .commit with
      | some e => (.error e, m)
      | none =>
        match m.transactions[tx.key]? with
        | none => (.error .transactionDone, m)
        | some t =>
          (.ok (), { m with committed := m.committed ++ t.pending }.modifyTransaction tx.key
            fun t => { t with pending := [] })
  | .prepare .. => (.error .deadlineExceeded, m)
  | .begin .. => (.error .deadlineExceeded, m)
  | .close _ => (.error .deadlineExceeded, m)
  | .rollback _ => (.error .deadlineExceeded, m)

/-- Serve a call from beginning to end; the last part of the result is when that was. -/
def serve (m : Memory) (now : Instant) (c : Call) : c.Answer × Memory × Instant :=
  match m.receive now c with
  | (.answered answer, m) => (answer, m, now)
  | (.waiting until_ inTime, m) =>
    let (answer, m) := m.settle until_ inTime c
    (answer, m, until_)

end Memory

end UserAccounts
