import UserAccounts.Config.Basic
import UserAccounts.Config.Literal

/-!
# Where settings come from

Settings are given on the command line, in the environment, or not at all. What the command line
says wins over the environment, and that over what is built in. A command line that says of every
setting with a built-in value just that value, and nothing else, counts as one that says nothing.

`Config.load` reads both and yields the settings, unless one of them is not of the kind that its
setting wants.
-/

namespace UserAccounts.Config

/-- One of the settings. -/
inductive Setting where
  | httpAddress
  | publicBaseUrl
  | databaseUrl
  | maxConnections
  | acquireTimeout
  | logLevel
  deriving DecidableEq

namespace Setting

/-- All settings. -/
def all : List Setting :=
  [.httpAddress, .publicBaseUrl, .databaseUrl, .maxConnections, .acquireTimeout, .logLevel]

/-- The words of which the name of a setting is made. -/
def words : Setting → List String
  | .httpAddress => ["http", "address"]
  | .publicBaseUrl => ["public", "base", "url"]
  | .databaseUrl => ["database", "url"]
  | .maxConnections => ["max", "connections"]
  | .acquireTimeout => ["acquire", "timeout", "ms"]
  | .logLevel => ["log", "level"]

/-- The flag of a setting on the command line. -/
def flag (s : Setting) : String :=
  "--" ++ "-".intercalate s.words

/-- The environment variable of a setting. -/
def environmentName (s : Setting) : String :=
  "_".intercalate ("ACCOUNTS" :: s.words.map String.toUpper)

end Setting

/-- What one place says about the settings. -/
structure Source where
  value? : Setting → Option Literal

namespace Source

/-- A source that says nothing. -/
def silent : Source := ⟨fun _ => none⟩

/-- What either source says, the first where both do. -/
def orElse (a b : Source) : Source :=
  ⟨fun s => (a.value? s).or (b.value? s)⟩

/-- A source that says one thing more. -/
def put (source : Source) (setting : Setting) (value : Literal) : Source :=
  ⟨fun s => if s = setting then some value else source.value? s⟩

/-- What is built in. -/
def builtIn : Source where
  value?
    | .httpAddress => some (.text Config.default.httpAddress)
    | .publicBaseUrl => some (.text Config.default.publicBaseUrl)
    | .logLevel => some (.text Config.default.logLevel)
    | .databaseUrl | .maxConnections | .acquireTimeout => none

/-- Whether two sources say the same. -/
def agrees (a b : Source) : Bool :=
  Setting.all.all fun s => a.value? s == b.value? s

end Source

/-! ## The environment -/

/-- What the environment says. -/
def environmentSource (environment : List (String × String)) : Source :=
  ⟨fun s => (environment.lookup s.environmentName).map Literal.ofString⟩

/-! ## The command line -/

/-- The largest number of connections that can be asked for. -/
def maxConnectionLimit : Nat := 0xFFFFFFFF

/-- A number that a flag gives, from a lower to an upper bound. -/
def flagNumber? (low high : Int) (s : String) : Option Literal :=
  match Literal.integer? s with
  | some n => if low ≤ n && n ≤ high then some (.integer n) else none
  | none => none

/-- What the value of a flag says. A span has no sign at all; the number of connections may have one
if it is 0. -/
def flagValue? (setting : Setting) (s : String) : Option Literal :=
  match setting with
  | .httpAddress | .publicBaseUrl | .databaseUrl | .logLevel => some (.text s)
  | .maxConnections => flagNumber? 0 maxConnectionLimit s
  | .acquireTimeout =>
    if s.toList.head? == some '-' then none else flagNumber? 0 Text.maxUnsigned64 s

/-- A flag with its value after an equals sign, taken apart. -/
def splitFlag (argument : String) : String × Option String :=
  match argument.toList.span (· != '=') with
  | (name, _ :: value) => (String.ofList name, some (String.ofList value))
  | (name, []) => (String.ofList name, none)

/-- Whether an argument may be the value of the flag before it: it does not look like a flag. -/
def mayBeValue (argument : String) : Bool :=
  match argument.toList with
  | '-' :: _ :: _ => false
  | _ => true

/-- Take in a flag with its value, unless it was given before. -/
def putFlag? (source : Source) (setting : Setting) (value : String) : Option Source :=
  if (source.value? setting).isSome then none
  else (flagValue? setting value).map (source.put setting)

/-- What the remaining arguments add to a source. After a double dash nothing may follow. -/
def readArguments? (source : Source) : List String → Option Source
  | [] => some source
  | ["--"] => some source
  | argument :: rest =>
    let (name, attached) := splitFlag argument
    match Setting.all.find? fun s => s.flag == name, attached, rest with
    | none, _, _ => none
    | some setting, some value, rest =>
      match putFlag? source setting value with
      | some source => readArguments? source rest
      | none => none
    | some setting, none, value :: rest =>
      if mayBeValue value then
        match putFlag? source setting value with
        | some source => readArguments? source rest
        | none => none
      else none
    | some _, none, [] => none

/-- What the command line says. -/
def commandLineSource? (arguments : List String) : Option Source :=
  (readArguments? .silent arguments).map fun source =>
    if source.agrees .builtIn then .silent else source

/-! ## The settings -/

/-- A text that a setting wants. -/
def wantText? : Option Literal → Option String
  | some (.text s) => some s
  | _ => none

/-- A text that a setting takes; the outer level is empty if it is something else. -/
def takeText? : Option Literal → Option (Option String)
  | none => some none
  | some (.text s) => some (some s)
  | some _ => none

/-- A number that a setting takes; the outer level is empty if it is something else. -/
def takeNumber? (limit : Nat) : Option Literal → Option (Option Nat)
  | none => some none
  | some (.integer (.ofNat n)) => if n ≤ limit then some (some n) else none
  | some _ => none

/-- The settings that a source gives. -/
def ofSource? (source : Source) : Option Config := do
  let httpAddress ← wantText? (source.value? .httpAddress)
  let publicBaseUrl ← wantText? (source.value? .publicBaseUrl)
  let databaseUrl ← takeText? (source.value? .databaseUrl)
  let maxConnections ← takeNumber? maxConnectionLimit (source.value? .maxConnections)
  let acquireTimeoutMillis ← takeNumber? Text.maxUnsigned64 (source.value? .acquireTimeout)
  let logLevel ← wantText? (source.value? .logLevel)
  some ⟨httpAddress, publicBaseUrl, databaseUrl, maxConnections, acquireTimeoutMillis, logLevel⟩

/-- The settings that a command line and an environment give. -/
def load (arguments : List String) (environment : List (String × String)) : Option Config :=
  match commandLineSource? arguments with
  | none => none
  | some commandLine =>
    ofSource? (commandLine.orElse ((environmentSource environment).orElse .builtIn))

end UserAccounts.Config
