import UserAccounts.Config.SocketAddress
import UserAccounts.Text.Utf8
import UserAccounts.Url.Form

/-!
# Connection options

A database URL says where the server is, who connects to which database, and some more. Its parts
are read from left to right, and then the pairs of its query, which win over them; pairs with
unknown names are ignored. The first part that makes no sense decides.
-/

namespace UserAccounts.Postgres

open Text (inspect)

/-- Why a database URL is refused. -/
inductive OptionsError where
  | url (cause : UrlError)
  | number (cause : Text.NumeralError)
  | address
  | text (cause : Text.Utf8.DecodeError)
  | sslMode (value : String)
  deriving DecidableEq

namespace OptionsError

/-- What precedes the wording of any fault in a configuration. -/
def configuration (cause : String) : String :=
  "error with configuration: " ++ cause

/-- The wording of a refused database URL. -/
def message : OptionsError → String
  | .url cause => configuration cause.message
  | .number cause => configuration cause.message
  | .address => configuration "invalid IP address syntax"
  | .text cause => configuration cause.message
  | .sslMode value =>
    configuration (configuration ("unknown value " ++ inspect value ++ " for \x60ssl_mode\x60"))

end OptionsError

/-- How to connect to a server. -/
structure Options where
  host : Option String
  /-- The directory of the socket, which wins over the host. -/
  socket : Option String
  port : Nat
  user : String
  password : Option String
  database : Option String
  /-- How many prepared statements a connection remembers. -/
  cacheCapacity : Nat
  deriving DecidableEq

namespace Options

/-- The port of a server where nothing is said. -/
def defaultPort : Nat := 5432

/-- The options where nothing is said. -/
def usual : Options where
  host := none
  socket := none
  port := defaultPort
  user := ""
  password := none
  database := none
  cacheCapacity := 100

/-- The text that a percent-encoded part stands for. -/
def decodePart (s : String) : Except OptionsError String :=
  match Text.Utf8.decode (Url.percentDecode s.toList) with
  | .ok text => .ok text
  | .error cause => .error (.text cause)

/-- The host of a URL: after decoding, what begins with a slash is the directory of a socket. -/
def withUrlHost (o : Options) (host : String) : Except OptionsError Options :=
  match Url.percentDecode host.toList with
  | 0x2F :: _ => do .ok { o with socket := some (← decodePart host) }
  | _ => .ok { o with host := some host }

/-- A decoded part, unless it is empty. -/
def part? (s : String) : Except OptionsError (Option String) :=
  if s.isEmpty then .ok none else do .ok (some (← decodePart s))

/-- What the parts of a URL before its query say. -/
def ofParts (u : Url) : Except OptionsError Options := do
  let authority := u.authority.getD ⟨"", "", .name "", none⟩
  let o ← match authority.host with
    | .name "" => .ok usual
    | host => usual.withUrlHost host.text
  let user ← part? authority.username
  let password ← part? authority.password
  let database ← part? (String.ofList (u.path.text.toList.dropWhile (· == '/')))
  .ok { o with
    port := authority.port.getD defaultPort
    user := user.getD ""
    password := password
    database := database }

/-- A number in the query. -/
def number (limit : Nat) (s : String) : Except OptionsError Nat :=
  match Text.parseNatural limit s with
  | .ok n => .ok n
  | .error cause => .error (.number cause)

/-- Whether a text is an IP address. -/
def isAddress (s : String) : Bool :=
  (SocketAddress.ipv4? s.toList).isSome || (Url.parseIpv6? s.toList).isSome

/-- The ways in which a connection may be secured, in lower case. -/
def sslModes : List String :=
  ["disable", "allow", "prefer", "require", "verify-ca", "verify-full"]

/-- Take in a pair of the query. -/
def withPair (o : Options) (pair : String × String) : Except OptionsError Options :=
  let value := pair.2
  match pair.1 with
  | "sslmode" | "ssl-mode" =>
    if sslModes.contains value.toLower then .ok o else .error (.sslMode value)
  | "statement-cache-capacity" => do
    .ok { o with cacheCapacity := ← number Text.maxUnsigned64 value }
  | "host" =>
    match value.toList with
    | '/' :: _ => .ok { o with socket := some value }
    | _ => .ok { o with host := some value }
  | "hostaddr" => if isAddress value then .ok { o with host := some value } else .error .address
  | "port" => do .ok { o with port := ← number SocketAddress.maxPort value }
  | "dbname" => .ok { o with database := some value }
  | "user" => .ok { o with user := value }
  | "password" => .ok { o with password := some value }
  | _ => .ok o

/-- The options that a database URL spells. -/
def ofUrl (s : String) : Except OptionsError Options :=
  match Url.parse s with
  | .error cause => .error (.url cause)
  | .ok u => do
    let o ← ofParts u
    (Url.Form.decode (u.query.getD "")).foldlM withPair o

/-- The name of the database, empty if none is given. -/
def databaseName (o : Options) : String :=
  o.database.getD ""

end Options

end UserAccounts.Postgres
