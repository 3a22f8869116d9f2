import UserAccounts.Account.Record
import UserAccounts.Account.Statements
import UserAccounts.Store.Layer

/-!
# The account service

The three operations on accounts, as programs over a store. Every statement is used in a bracket:
prepared, run once, and closed, whatever running it yields; the first thing that goes wrong decides
the outcome. Creating an account happens in one transaction, which is rolled back once if anything
fails before the commit. Reading happens outside of transactions.

`Service.ofStore` is the service over a store; `Service.logged` reports every call of another one.
-/

namespace UserAccounts

open Text (Inspect inspect)

/-- Where identifiers for new entities come from. -/
structure Identifiers where
  next : Program Id

namespace Identifiers

/-- The identifiers that the world gives out. -/
def fresh : Identifiers := ⟨.ask .identifier⟩

/-- Identifiers whose making is reported. -/
def logged (ids : Identifiers) : Identifiers where
  next := do
    let id ← ids.next
    Program.report (.identifierGenerated id)
    pure id

end Identifiers

/-- The operations on accounts. -/
structure Service where
  create : Account → Program (Except Failure Account)
  list : Window → Program (Except Failure Listing)
  find : Id → Program (Except Failure Account)

/-- The longest time that the store may work on behalf of one operation. -/
def operationTimeout : Span := .ofMillis 1000

/-- How the transaction that creates an account is begun: a stricter level could make it fail for
reasons that the service does not handle. -/
def creationOptions : BeginOptions := ⟨some .readCommitted⟩

/-- A failure of the store during some action, as callers see it. -/
def storeFailure (action : String) (e : StoreError) : Failure :=
  .internal ("failed to " ++ action ++ ": " ++ e.message)

/-! ## Statements in brackets -/

/-- What a bracket yields: the outcome of the work, and a failure to close only if it succeeded. -/
def closing {α : Type} (outcome : Except StoreError α) (closed : Except StoreError Unit) :
    Except StoreError α :=
  match outcome with
  | .error e => .error e
  | .ok a =>
    match closed with
    | .error e => .error e
    | .ok _ => .ok a

namespace Store

/-- Prepare a statement, do some work with it, and close it. -/
def bracket {α : Type} (store : Store) (within : Option Transaction) (deadline : Deadline)
    (query : String) (work : Statement → Program (Except StoreError α)) :
    Program (Except StoreError α) := do
  match ← store.prepare within deadline query with
  | .error e => pure (.error e)
  | .ok statement =>
    let outcome ← work statement
    let closed ← store.close statement
    pure (closing outcome closed)

/-- Run a statement for its effect, in a bracket. -/
def execOnce (store : Store) (within : Option Transaction) (deadline : Deadline) (query : String)
    (args : List SqlValue) : Program (Except StoreError Nat) :=
  store.bracket within deadline query fun statement => store.exec statement deadline args

/-- Run a statement for its first row, in a bracket. -/
def rowOnce (store : Store) (within : Option Transaction) (deadline : Deadline) (query : String)
    (args : List SqlValue) : Program (Except StoreError (Option Row)) :=
  store.bracket within deadline query fun statement => store.queryRow statement deadline args

/-- Run a statement for its rows, in a bracket. -/
def rowsOnce (store : Store) (within : Option Transaction) (deadline : Deadline) (query : String)
    (args : List SqlValue) : Program (Except StoreError (List Row)) :=
  store.bracket within deadline query fun statement => store.queryRows statement deadline args

end Store

/-- The first column of a row that may be missing, or `absent` without a row. -/
def firstColumn {α : Type} (absent : α) (read : Row → Except StoreError α) :
    Except StoreError (Option Row) → Except StoreError α
  | .error e => .error e
  | .ok none => .ok absent
  | .ok (some row) => read row

/-! ## Creation -/

/-- The failure of a username that is taken. -/
def usernameTaken (username : String) : Failure :=
  let message := "user account with username \"" ++ username ++ "\" already exists"
  (Failure.conflict message).withDetails (.object [("username", .string username)])

/-- The failure of a rollback, which keeps what was to be rolled back among its details. -/
def rollbackFailure (cause : Failure) (e : StoreError) : Failure :=
  (storeFailure "roll back user account creation" e).withDetails <| .object
    [("cause", .object [("code", Json.encode cause.code), ("message", .string cause.message)])]

/-- A failure inside a transaction, and how far the creation had come. -/
structure Setback where
  stage : CreateStage
  cause : Failure

/-- Add the rows of an account within a transaction, giving its user and then the account itself
their identifiers and times of creation. -/
def insertRows (store : Store) (ids : Identifiers) (clock : Clock) (tx : Transaction)
    (deadline : Deadline) (account : Account) : Program (Except Setback Account) := do
  let check ← store.rowOnce (some tx) deadline Statements.usernameExists [.text account.username]
  match firstColumn false (·.boolean 0) check with
  | .error e => pure (.error ⟨.begun, storeFailure "check username" e⟩)
  | .ok true => pure (.error ⟨.begun, usernameTaken account.username⟩)
  | .ok false =>
    let userId ← ids.next
    let userCreatedAt ← clock.universal
    let account := account.assignUser userId userCreatedAt
    match ← store.execOnce (some tx) deadline Statements.insertUser account.user.insertArgs with
    | .error e => pure (.error ⟨.begun, storeFailure "insert user" e⟩)
    | .ok _ =>
      let id ← ids.next
      let createdAt ← clock.universal
      let account := account.assign id createdAt
      match ← store.execOnce (some tx) deadline Statements.insertAccount account.insertArgs with
      | .error e => pure (.error ⟨.userInserted, storeFailure "insert user account" e⟩)
      | .ok _ => pure (.ok account)

/-- Roll a transaction back after a setback, and say which failure remains. -/
def abandon (store : Store) (tx : Transaction) (setback : Setback) : Program Failure := do
  match ← store.rollback tx with
  | .ok _ =>
    Program.report (.creationRolledBack setback.stage setback.cause)
    pure setback.cause
  | .error e =>
    Program.report (.creationNotRolledBack setback.stage setback.cause e)
    pure (rollbackFailure setback.cause e)

/-- Create an account. -/
def createAccount (store : Store) (ids : Identifiers) (clock : Clock) (account : Account) :
    Program (Except Failure Account) := do
  let deadline := Deadline.after (← Program.now) operationTimeout
  match ← store.begin deadline creationOptions with
  | .error e =>
    Program.report (.creationNotBegun e)
    pure (.error (storeFailure "begin transaction" e))
  | .ok tx =>
    match ← insertRows store ids clock tx deadline account with
    | .error setback => pure (.error (← abandon store tx setback))
    | .ok account =>
      match ← store.commit tx with
      | .error e => pure (.error (storeFailure "commit user account" e))
      | .ok _ =>
        Program.report (.accountCreated account.id)
        pure (.ok account)

/-! ## Reading -/

/-- A position in the listing as it is bound to a statement. -/
def positionValue (n : Nat) : Except Failure SqlValue :=
  if n ≤ Text.maxSigned64 then .ok (.int (Int64.ofNat n))
  else .error (.invalidRequest ("pagination value " ++ Text.natural n ++ " is out of range"))

/-- The number of accounts that a count yields. -/
def countValue (n : Int64) : Except Failure Nat :=
  if n.toInt < 0 then
    .error (.internal ("store reported a negative count " ++ Text.integer n.toInt))
  else .ok n.toInt.toNat

/-- The accounts that rows hold; the first row that holds none decides. -/
def accountsOfRows : List Row → Except StoreError (List Account)
  | [] => .ok []
  | row :: rest =>
    match Account.ofRow row with
    | .error e => .error e
    | .ok a =>
      match accountsOfRows rest with
      | .error e => .error e
      | .ok accounts => .ok (a :: accounts)

/-- The outcome of a query decoded by a function that may fail. -/
def decoding {α β : Type} (decode : α → Except StoreError β) :
    Except StoreError α → Except StoreError β
  | .error e => .error e
  | .ok a => decode a

/-- The values that a listing binds: how many accounts to skip, how many to give, and the position
after which there may be more. -/
structure ListingArgs where
  offset : SqlValue
  limit : SqlValue
  next : SqlValue

/-- The values to bind for a window. -/
def Window.args (w : Window) : Except Failure ListingArgs :=
  match positionValue w.offset, positionValue w.limit, positionValue w.nextOffset with
  | .error f, _, _ => .error f
  | .ok _, .error f, _ => .error f
  | .ok _, .ok _, .error f => .error f
  | .ok offset, .ok limit, .ok next => .ok ⟨offset, limit, next⟩

/-- List one page of accounts. -/
def listAccounts (store : Store) (window : Window) : Program (Except Failure Listing) := do
  let deadline := Deadline.after (← Program.now) operationTimeout
  match window.args with
  | .error f => pure (.error f)
  | .ok args =>
    let count ← store.rowOnce none deadline Statements.countAccounts []
    match firstColumn 0 (·.integer 0) count with
    | .error e => pure (.error (storeFailure "count user accounts" e))
    | .ok n =>
      match countValue n with
      | .error f => pure (.error f)
      | .ok total =>
        let found ← store.rowsOnce none deadline Statements.findAccounts [args.offset, args.limit]
        match decoding accountsOfRows found with
        | .error e => pure (.error (storeFailure "find user accounts" e))
        | .ok accounts =>
          let more ← store.rowOnce none deadline Statements.hasAccountsAfter [args.next]
          match firstColumn false (·.boolean 0) more with
          | .error e => pure (.error (storeFailure "probe next page" e))
          | .ok hasNext => pure (.ok ⟨window, total, hasNext, accounts⟩)

/-- The failure of an account that does not exist. -/
def accountMissing : Failure := .notFound "user account does not exist"

/-- Find an account by its identifier. -/
def findAccount (store : Store) (id : Id) : Program (Except Failure Account) := do
  let deadline := Deadline.after (← Program.now) operationTimeout
  match ← store.rowOnce none deadline Statements.findAccountById [.text id.text] with
  | .error e => pure (.error (storeFailure "find user account" e))
  | .ok none => pure (.error accountMissing)
  | .ok (some row) =>
    match Account.ofRow row with
    | .error e => pure (.error (storeFailure "decode user account" e))
    | .ok account => pure (.ok account)

namespace Service

/-- The service over a store. -/
def ofStore (store : Store) (ids : Identifiers) (clock : Clock) : Service where
  create := createAccount store ids clock
  list := listAccounts store
  find := findAccount store

/-- Report a call to the service: its outcome, and once more its failure. -/
def reported {α : Type} [Inspect α] (clock : Clock) (operation before : String)
    (p : Program (Except Failure α)) : Program (Except Failure α) := do
  let (outcome, timing) ← p.timed clock
  let entry : ServiceReport := ⟨operation, ← Program.currentRequest, before, timing⟩
  Program.report (.serviceCall entry (outcome.map inspect))
  match outcome with
  | .ok _ => pure ()
  | .error cause => Program.report (.serviceCallFailed entry cause)
  pure outcome

/-- A service whose calls are reported. -/
def logged (clock : Clock) (service : Service) : Service where
  create account := reported clock "create_user_account" (inspect account) (service.create account)
  list window := reported clock "find_user_accounts" (inspect window) (service.list window)
  find id := reported clock "find_user_account_by_id" (inspect id) (service.find id)

end Service

end UserAccounts
