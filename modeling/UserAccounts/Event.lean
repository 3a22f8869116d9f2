import UserAccounts.Account.Basic
import UserAccounts.Account.Failure
import UserAccounts.Account.RequestId
import UserAccounts.Store.Call
import UserAccounts.Time.Timing

/-!
# Events

What the service reports about its work. Each kind of event carries the facts it reports;
`Event.level`, `Event.message` and `Event.fields` are its written form.
-/

namespace UserAccounts

open Text (Inspect inspect)

/-- How much attention an event asks for. -/
inductive Level where
  | debug
  | info
  | error
  deriving DecidableEq

/-- The name of a level. -/
def Level.name : Level → String
  | .debug => "DEBUG"
  | .info => "INFO"
  | .error => "ERROR"

/-- Where reports about a store come from: a path of names, and the store's identity. -/
structure LogScope where
  path : String
  database : String
  user : String
  deriving DecidableEq

namespace LogScope

/-- The scope of a store itself. -/
def root (database user : String) : LogScope :=
  ⟨"store", database, user⟩

/-- The scope of something that belongs to this one. -/
def named (s : LogScope) (child : String) : LogScope :=
  { s with path := s.path ++ "." ++ child }

instance : Inspect LogScope where
  inspect s := Inspect.record "LogContext"
    [("scope", inspect s.path), ("db_name", inspect s.database), ("db_user", inspect s.user)]

end LogScope

/-- The report of a call to the store. -/
structure StoreReport where
  scope : LogScope
  call : Call
  timing : Timing
  deriving DecidableEq

/-- The report of a call to the account service: the operation, what went in, and what came out. -/
structure ServiceReport where
  operation : String
  requestId : Option RequestId
  before : String
  timing : Timing
  deriving DecidableEq

/-- How far the creation of an account has come. -/
inductive CreateStage where
  | started
  | begun
  | userInserted
  | accountInserted
  | committed
  | rolledBack
  deriving DecidableEq

instance : Inspect CreateStage where
  inspect
    | .started => "Started"
    | .begun => "TxBegun"
    | .userInserted => "UserInserted"
    | .accountInserted => "AccountInserted"
    | .committed => "Committed"
    | .rolledBack => "RolledBack"

/-- A wall clock's zone. -/
inductive Zone where
  | universal
  | home
  deriving DecidableEq

/-- A timestamp as a zone writes it; the home zone has no offset. -/
def Zone.display : Zone → Timestamp → String
  | .universal, t => t.display
  | .home, t => t.displayWithOffset

/-- Something worth reporting. -/
inductive Event where
  /-- A call to the store was answered. -/
  | storeCall (report : StoreReport) (outcome : Option StoreError)
  /-- A call to the store failed. -/
  | storeCallFailed (report : StoreReport) (cause : StoreError)
  /-- A call to the account service was answered; the outcome shows the value or the failure. -/
  | serviceCall (report : ServiceReport) (outcome : Except Failure String)
  | serviceCallFailed (report : ServiceReport) (cause : Failure)
  | identifierGenerated (id : Id)
  | timeRead (zone : Zone) (now : Timestamp)
  | creationNotBegun (cause : StoreError)
  | creationRolledBack (failedAt : CreateStage) (cause : Failure)
  | creationNotRolledBack (failedAt : CreateStage) (cause : Failure) (error : StoreError)
  | accountCreated (id : Id)
  | requestHandled (method path : String) (status : Nat) (elapsed : Span) (requestId : RequestId)
  | requestNotDecoded (path : String)
  | requestFailed (failure : Failure)
  /-- A failure of the HTTP layer was turned into one that callers see. -/
  | failurePromoted (cause : String)
  | storeConnected (database user : String)
  | storeConnectionFailed (cause : String)

namespace Event

/-- The level of an event. -/
def level : Event → Level
  | .storeCallFailed .. | .serviceCallFailed .. | .creationNotRolledBack .. | .requestFailed _
  | .failurePromoted _ => .error
  | .requestHandled .. | .storeConnected .. => .info
  | _ => .debug

/-- The message of an event. -/
def message : Event → String
  | .storeCall .. => "store call"
  | .storeCallFailed .. => "store call failed"
  | .serviceCall .. => "user account service call"
  | .serviceCallFailed .. => "user account service call failed"
  | .identifierGenerated _ => "identifier generated"
  | .timeRead .universal _ => "utc time read"
  | .timeRead .home _ => "local time read"
  | .creationNotBegun _ => "could not begin user account creation"
  | .creationRolledBack .. => "user account creation rolled back"
  | .creationNotRolledBack .. => "rollback after failed user account creation failed"
  | .accountCreated _ => "user account created"
  | .requestHandled .. => "request handled"
  | .requestNotDecoded _ => "request decoding failed"
  | .requestFailed _ => "request failed"
  | .failurePromoted _ => "actix error promoted to domain error"
  | .storeConnected .. => "connected to postgres"
  | .storeConnectionFailed _ => "postgres connection failed"

/-- The fields that report a timing. -/
def timingFields (t : Timing) : List (String × String) :=
  [("start", t.start.display), ("end", t.stop.display), ("elapsed_ms", inspect t.elapsedMillis)]

/-- The fields that the reports of one call to the store have in common. -/
def storeFields (r : StoreReport) : List (String × String) :=
  [("scope", r.scope.path), ("db_name", r.scope.database), ("db_user", r.scope.user),
    ("call", r.call.name), ("query", r.call.queryText), ("args", r.call.shownArgs)] ++
    timingFields r.timing

/-- The fields that the reports of one call to the service have in common. -/
def serviceFields (r : ServiceReport) : List (String × String) :=
  [("scope", "user_account_service"), ("call", r.operation),
    ("request_id", (r.requestId.map RequestId.text).getD ""), ("before", r.before)] ++
    timingFields r.timing

/-- What came out of a call to the service, as its report shows it. -/
def outcomeFields : Except Failure String → List (String × String)
  | .ok after => [("after", Inspect.wrapped "Some" after), ("error", "None")]
  | .error cause => [("after", "None"), ("error", inspect (some cause))]

/-- The fields of an event, by name. -/
def fields : Event → List (String × String)
  | .storeCall r outcome => storeFields r ++ [("error", inspect outcome)]
  | .storeCallFailed r cause => storeFields r ++ [("error", inspect cause)]
  | .serviceCall r outcome => serviceFields r ++ outcomeFields outcome
  | .serviceCallFailed r cause => serviceFields r ++ [("error", inspect cause)]
  | .identifierGenerated id => [("scope", "identifier"), ("id", id.text)]
  | .timeRead zone now => [("scope", "clock"), ("now", zone.display now)]
  | .creationNotBegun cause =>
    [("stage", inspect CreateStage.started), ("error", cause.message)]
  | .creationRolledBack failedAt cause =>
    [("failed_stage", inspect failedAt), ("stage", inspect CreateStage.rolledBack),
      ("error", cause.message)]
  | .creationNotRolledBack failedAt cause error =>
    [("failed_stage", inspect failedAt), ("cause", cause.message), ("error", error.message)]
  | .accountCreated id =>
    [("stage", inspect CreateStage.committed), ("user_account_id", id.text)]
  | .requestHandled method path status elapsed requestId =>
    [("method", method), ("path", path), ("status", inspect status),
      ("elapsed_ms", inspect elapsed.rounded.wholeMillis), ("request_id", requestId.text)]
  | .requestNotDecoded path => [("path", path)]
  | .requestFailed failure =>
    [("error", failure.message), ("details", inspect failure.details)]
  | .failurePromoted cause => [("error", cause)]
  | .storeConnected database user => [("db_name", database), ("db_user", user)]
  | .storeConnectionFailed cause => [("error", cause)]

end Event

end UserAccounts
