import UserAccounts.Postgres.Client
import UserAccounts.Postgres.Options
import UserAccounts.Text.Fragment

/-!
# A scripted server

A server that knows no SQL: it looks every statement up in a list of rules, which say how preparing
and running it turn out, and keeps a record of what it was asked to do. A statement without a rule
succeeds and returns nothing.
-/

namespace UserAccounts.Postgres

/-- A refusal by the server. -/
structure Refusal where
  code : String
  message : String
  deriving DecidableEq

/-- The refusal as the client sees it. -/
def Refusal.error (r : Refusal) : ClientError :=
  .refused r.code r.message

/-- A cell as a rule gives it. -/
inductive CellSource where
  | value (v : SqlValue)
  | raw (bytes : List UInt8)
  deriving DecidableEq

/-- The number of bytes of an integer of a type. -/
def integerSize (type : String) : Nat :=
  match type with
  | "INT2" => 2
  | "INT4" | "OID" | "DATE" => 4
  | _ => 8

/-- The bytes of a cell in a column of some type. -/
def CellSource.cell (type : String) : CellSource → Cell
  | .raw bytes => some bytes
  | .value (.int n) => some (integerBytes n.toInt (integerSize type))
  | .value v => argumentBytes? v

/-- The state that the server says a transaction is in. -/
inductive Phase where
  | idle
  | active
  | failed
  deriving DecidableEq

/-- The phase that a letter stands for. -/
def Phase.ofLetter? : String → Option Phase
  | "I" => some .idle
  | "T" => some .active
  | "E" => some .failed
  | _ => none

/-- What the server does with a statement. -/
structure Rule where
  /-- The text that a statement must contain, or be equal to if it begins or ends transactions. -/
  fragment : String
  prepareError : Option Refusal
  /-- The types of the parameters, which say how the record shows arguments. -/
  params : List String
  columns : List Column
  delay : Span
  /-- Whether the server hangs up. -/
  drops : Bool
  error : Option Refusal
  rows : List (List CellSource)
  affected : Option Nat
  /-- What is said about the transaction after a command. -/
  phase : Option Phase

namespace Rule

/-- The rule of a statement without a rule. -/
def silent : Rule where
  fragment := ""
  prepareError := none
  params := []
  columns := []
  delay := ⟨0⟩
  drops := false
  error := none
  rows := []
  affected := none
  phase := none

/-- The statements that begin and end transactions. -/
def commands : List String := ["BEGIN", "COMMIT", "ROLLBACK"]

/-- Whether a rule is about a statement. -/
def covers (r : Rule) (query : String) : Bool :=
  if commands.contains r.fragment then r.fragment == query
  else Text.containsFragment r.fragment query

/-- The cells of a row. -/
def cells (r : Rule) (row : List CellSource) : List Cell :=
  row.mapIdx fun i source => source.cell ((r.columns[i]?.map (·.type)).getD "")

/-- What running a statement comes to, once its time has passed. -/
def outcome (r : Rule) (columns : List Column) : Except ClientError ResultSet :=
  if r.drops then .error .disconnected
  else
    match r.error with
    | some refusal => .error refusal.error
    | none => .ok ⟨columns, r.rows.map r.cells, r.affected.getD r.rows.length⟩

end Rule

/-- Something that the server was asked to do. -/
inductive Received where
  | command (text : String)
  | execute (query : String) (args : List SqlValue)
  deriving DecidableEq

/-- An argument as the record shows it: a value of the type that its parameter is declared with. -/
def shownArgument (type : Option String) (argument : SqlValue) : SqlValue :=
  match argumentBytes? argument, type with
  | none, _ => .null
  | some bytes, some "INT8" => .int (Int64.ofInt (integerOfBytes bytes))
  | some bytes, some "BOOL" => .bool (truthOfBytes bytes)
  | some bytes, _ => .text (Text.Utf8.decodeLossy bytes)

/-- A scripted server. -/
structure Server where
  /-- The directory of its socket. -/
  directory : String
  startupError : Option Refusal
  rules : List Rule
  received : List Received

namespace Server

/-- The rule about a statement. -/
def rule (s : Server) (query : String) : Rule :=
  (s.rules.find? (·.covers query)).getD .silent

/-- Put a rule before the others. -/
def addRule (s : Server) (r : Rule) : Server :=
  { s with rules := r :: s.rules }

/-- Take in a command. Rolling back leaves no record. -/
def takeCommand (s : Server) (text : String) : Server :=
  if text == "ROLLBACK" then s else { s with received := s.received ++ [.command text] }

/-- Take in the execution of a statement. -/
def takeExecution (s : Server) (query : String) (args : List SqlValue) : Server :=
  let params := (s.rule query).params
  let shown := args.mapIdx fun i argument => shownArgument params[i]? argument
  { s with received := s.received ++ [.execute query shown] }

/-- A path without slashes at its end. -/
def trimmedPath (path : String) : List Char :=
  (path.toList.reverse.dropWhile (· == '/')).reverse

/-- The codes of refusals after which connecting is tried again until no time is left. -/
def transientCodes : List String := ["53300", "57P03"]

/-- Whether a connection with some options is accepted. -/
def accept (s : Server) (options : Options) : Except ClientError Unit :=
  match options.socket with
  | some path =>
    if trimmedPath path == trimmedPath s.directory && options.port == Options.defaultPort then
      match s.startupError with
      | none => .ok ()
      | some refusal =>
        .error (if transientCodes.contains refusal.code then .poolTimedOut else refusal.error)
    else .error .disconnected
  | none => .error .disconnected

end Server

end UserAccounts.Postgres
