import UserAccounts.Config.SocketAddress
import UserAccounts.Postgres.Settings
import UserAccounts.Text.Blank
import UserAccounts.Url.Parser

/-!
# Configuration

The settings of the service. They are kept as they were given and examined when they are asked for:
`Config.bindAddress`, `Config.baseUrl` and `Config.storeSettings` say which setting is wrong and
why.
-/

namespace UserAccounts

/-- The settings of the service. -/
structure Config where
  /-- The address to listen on. -/
  httpAddress : String
  /-- The base of the links that the service gives out. -/
  publicBaseUrl : String
  databaseUrl : Option String
  maxConnections : Option Nat
  acquireTimeoutMillis : Option Nat
  /-- Which events are to be shown. -/
  logLevel : String
  deriving DecidableEq

/-- What is wrong with a setting. -/
inductive ConfigError where
  | missingDatabaseUrl
  | invalidHttpAddress (value : String)
  | invalidPublicBaseUrl (value : String) (cause : UrlError)
  | zeroMaxConnections
  deriving DecidableEq

namespace ConfigError

/-- The name of a kind of error. -/
def name : ConfigError → String
  | .missingDatabaseUrl => "MissingDatabaseUrl"
  | .invalidHttpAddress _ => "InvalidHttpAddress"
  | .invalidPublicBaseUrl _ _ => "InvalidPublicBaseUrl"
  | .zeroMaxConnections => "ZeroMaxConnections"

/-- A value in a message. -/
def backquoted (value : String) : String :=
  "\x60" ++ value ++ "\x60"

/-- The wording of what is wrong with a setting. -/
def message : ConfigError → String
  | .missingDatabaseUrl => "a database URL is required (ACCOUNTS_DATABASE_URL or --database-url)"
  | .invalidHttpAddress value =>
    "invalid HTTP address " ++ backquoted value ++ ": invalid socket address syntax"
  | .invalidPublicBaseUrl value cause =>
    "invalid public base URL " ++ backquoted value ++ ": " ++ cause.message
  | .zeroMaxConnections => "max connections must be at least 1"

end ConfigError

namespace Config

/-- The settings where nothing is said. -/
def default : Config where
  httpAddress := "0.0.0.0:8080"
  publicBaseUrl := "http://localhost:8080"
  databaseUrl := none
  maxConnections := none
  acquireTimeoutMillis := none
  logLevel := "info"

instance : Inhabited Config := ⟨default⟩

/-- The address to listen on. -/
def bindAddress (c : Config) : Except ConfigError SocketAddress :=
  match SocketAddress.parse? c.httpAddress with
  | some address => .ok address
  | none => .error (.invalidHttpAddress c.httpAddress)

/-- The base of the links that the service gives out. -/
def baseUrl (c : Config) : Except ConfigError Url :=
  match Url.parse c.publicBaseUrl with
  | .ok url => .ok url
  | .error cause => .error (.invalidPublicBaseUrl c.publicBaseUrl cause)

/-- The database URL, if one is given that is not blank. -/
def databaseUrl? (c : Config) : Option String :=
  match c.databaseUrl with
  | some url => if Text.isBlank url then none else some url
  | none => none

/-- How to connect to the database; what is not given is as usual. -/
def storeSettings (c : Config) : Except ConfigError StoreSettings :=
  match c.databaseUrl? with
  | none => .error .missingDatabaseUrl
  | some url =>
    if c.maxConnections = some 0 then .error .zeroMaxConnections
    else
      let usual := StoreSettings.new url
      .ok { usual with
        maxConnections := c.maxConnections.getD usual.maxConnections
        acquireTimeout := (c.acquireTimeoutMillis.map Span.ofMillis).getD usual.acquireTimeout }

end Config

end UserAccounts
