import UserAccounts.Http.App

/-!
# Scenarios

A scenario is a sequence of steps that clients take: on a store and the objects it hands out, on the
account service, on the application, and on the clock. Statements, transactions and deadlines are
referred to by the names they were given when they were obtained.

`Step.perform` says what a step amounts to, as a program, and what comes of it.
-/

namespace UserAccounts.Scenario

/-- Everything that the steps of a scenario are taken on. -/
structure Stage where
  store : Store
  service : Service
  clock : Clock
  ids : Identifiers
  app : Http.App

/-- What the steps so far have left behind: the objects by name, the latest first. -/
structure Kept where
  statements : List (String × Statement)
  transactions : List (String × Transaction)
  deadlines : List (String × Deadline)
  health : Health

/-- Before the first step. -/
def Kept.initial : Kept := ⟨[], [], [], .starting⟩

/-- How long a step may take. -/
inductive Limit where
  | unlimited
  | within (d : Span)
  /-- Until a deadline that was kept. -/
  | kept (name : String)

/-- What is done with a prepared statement. -/
inductive Use where
  | exec (limit : Limit) (args : List SqlValue)
  | queryRow (limit : Limit) (args : List SqlValue)
  | queryRows (limit : Limit) (args : List SqlValue)
  | close
  | text

/-- How a transaction is ended. -/
inductive Ending where
  | commit
  | rollback

/-- What is asked of the account service. -/
inductive Inquiry where
  | create (account : Account)
  | list (window : Window)
  | find (id : Id)

/-- A step of a scenario. -/
inductive Step where
  | prepare (name : String) (limit : Limit) (query : String)
  | begin (name : String) (limit : Limit) (options : BeginOptions)
  | prepareIn (transaction name : String) (limit : Limit) (query : String)
  | use (statement : String) (how : Use)
  | finish (transaction : String) (ending : Ending)
  | identify
  /-- Ask the service, perhaps as part of a request whose identifier is given. -/
  | inquire (requestId : Option String) (inquiry : Inquiry)
  | request (r : Http.Request)
  /-- Serve a request with a failure in place of a response. -/
  | failing (f : Failure) (r : Http.Request)
  | promote (cause : String)
  | probe
  | markReady
  | markUnhealthy
  | keepDeadline (name : String) (limit : Limit)
  | isExpired (limit : Limit)
  /-- Work for some time under a deadline. -/
  | work (limit : Limit) (d : Span)
  | track (d : Span)
  | readClock (zone : Zone)
  | drawId

/-- What comes of a step. -/
inductive Outcome where
  | unknownStatement
  | unknownTransaction
  | prepared
  | affected (count : Nat)
  | row (row : Option Row)
  | rows (rows : List Row)
  | finished
  | refused (e : StoreError)
  | text (s : String)
  | identity (database user : String)
  | account (a : Account)
  | listing (l : Listing)
  | failure (f : Failure)
  | invalidRequestId (e : RequestIdError)
  | response (r : Http.Response)
  | failed (f : Failure)
  | health (h : Health)
  | deadlineKept (expired : Bool)
  | expired (expired : Bool)
  | worked
  | tracked (timing : Timing)
  | time (t : Timestamp)
  | id (id : Id)

namespace Outcome

/-- The outcome of a call to the store. -/
def ofStore {α : Type} (accepted : α → Outcome) : Except StoreError α → Outcome
  | .ok a => accepted a
  | .error e => .refused e

/-- The outcome of a call to the service. -/
def ofService {α : Type} (accepted : α → Outcome) : Except Failure α → Outcome
  | .ok a => accepted a
  | .error f => .failure f

end Outcome

/-- The deadline that a limit sets. A deadline that was not kept is none. -/
def Limit.deadline (kept : Kept) : Limit → Program Deadline
  | .unlimited => pure .none
  | .within d => do pure (.after (← Program.now) d)
  | .kept name => pure ((kept.deadlines.lookup name).getD .none)

/-- Use a prepared statement. -/
def Use.perform (store : Store) (kept : Kept) (s : Statement) : Use → Program Outcome
  | .exec limit args => do
    pure (.ofStore .affected (← store.exec s (← limit.deadline kept) args))
  | .queryRow limit args => do
    pure (.ofStore .row (← store.queryRow s (← limit.deadline kept) args))
  | .queryRows limit args => do
    pure (.ofStore .rows (← store.queryRows s (← limit.deadline kept) args))
  | .close => do pure (.ofStore (fun _ => .finished) (← store.close s))
  | .text => pure (.text s.query)

/-- End a transaction. -/
def Ending.perform (store : Store) (tx : Transaction) : Ending → Program Outcome
  | .commit => do pure (.ofStore (fun _ => .finished) (← store.commit tx))
  | .rollback => do pure (.ofStore (fun _ => .finished) (← store.rollback tx))

/-- Ask the service. -/
def Inquiry.perform (service : Service) : Inquiry → Program Outcome
  | .create account => do pure (.ofService .account (← service.create account))
  | .list window => do pure (.ofService .listing (← service.list window))
  | .find id => do pure (.ofService .account (← service.find id))

namespace Step

/-- Keep a statement under a name, if there is one. -/
def keepStatement (kept : Kept) (name : String) :
    Except StoreError Statement → Outcome × Kept
  | .ok s => (.prepared, { kept with statements := (name, s) :: kept.statements })
  | .error e => (.refused e, kept)

/-- Take a step. -/
def perform (stage : Stage) (kept : Kept) : Step → Program (Outcome × Kept)
  | .prepare name limit query => do
    let answer ← stage.store.prepare none (← limit.deadline kept) query
    pure (keepStatement kept name answer)
  | .begin name limit options => do
    match ← stage.store.begin (← limit.deadline kept) options with
    | .ok tx => pure (.finished, { kept with transactions := (name, tx) :: kept.transactions })
    | .error e => pure (.refused e, kept)
  | .prepareIn transaction name limit query =>
    match kept.transactions.lookup transaction with
    | none => pure (.unknownTransaction, kept)
    | some tx => do
      let answer ← stage.store.prepare (some tx) (← limit.deadline kept) query
      pure (keepStatement kept name answer)
  | .use statement how =>
    match kept.statements.lookup statement with
    | none => pure (.unknownStatement, kept)
    | some s => do pure (← how.perform stage.store kept s, kept)
  | .finish transaction ending =>
    match kept.transactions.lookup transaction with
    | none => pure (.unknownTransaction, kept)
    | some tx => do pure (← ending.perform stage.store tx, kept)
  | .identify => pure (.identity stage.store.database stage.store.user, kept)
  | .inquire none inquiry => do pure (← inquiry.perform stage.service, kept)
  | .inquire (some text) inquiry =>
    match RequestId.parse text with
    | .error e => pure (.invalidRequestId e, kept)
    | .ok id => do pure (← (inquiry.perform stage.service).duringRequest id, kept)
  | .request r => do pure (.response (← stage.app.serve kept.health r), kept)
  | .failing f r => do
    let f ← Http.serveFailing f r
    let _ ← Http.respondToFailure f
    pure (.failed f, kept)
  | .promote cause => do pure (.failure (← Http.promote cause), kept)
  | .probe => pure (.health kept.health, kept)
  | .markReady =>
    let health := kept.health.markReady
    pure (.health health, { kept with health := health })
  | .markUnhealthy =>
    let health := kept.health.markUnhealthy
    pure (.health health, { kept with health := health })
  | .keepDeadline name limit => do
    let deadline ← limit.deadline kept
    pure (.deadlineKept (deadline.isExpired (← Program.now)),
      { kept with deadlines := (name, deadline) :: kept.deadlines })
  | .isExpired limit => do
    let deadline ← limit.deadline kept
    pure (.expired (deadline.isExpired (← Program.now)), kept)
  | .work limit d => do
    if ← Program.wait (← limit.deadline kept) d then pure (.worked, kept)
    else pure (.refused .deadlineExceeded, kept)
  | .track d => do
    let (_, timing) ← (Program.wait .none d).timed stage.clock
    pure (.tracked timing, kept)
  | .readClock zone => do pure (.time (← stage.clock.read zone), kept)
  | .drawId => do pure (.id (← stage.ids.next), kept)

end Step

end UserAccounts.Scenario
