import UserAccounts.Http.Message

/-!
# Media types

A media type is a type and a subtype, perhaps with a suffix after the last plus sign, and
parameters. `MediaType.parse?` reads one; for a body only the question matters whether it is JSON.
-/

namespace UserAccounts.Http

/-- A media type without its parameters, in lower case. -/
structure MediaType where
  main : String
  sub : String
  suffix : Option String
  deriving DecidableEq

namespace MediaType

/-- The characters of which names are made. -/
def isTokenByte (c : Char) : Bool :=
  c.isAlphanum || "!#$%&'*+-.^_|~".toList.contains c || c.toNat == 0x60

/-- What is being read of a parameter. -/
inductive ParameterStage where
  /-- Before a name; blanks are passed over. -/
  | start
  | name
  /-- After the equals sign and some characters of a plain value. -/
  | value (isEmpty : Bool)
  /-- Inside quotes, which may not close right away. -/
  | quoted (isEmpty : Bool)
  | escaped
  | afterQuotes
  deriving DecidableEq

/-- Whether a character may stand between quotes. -/
def isQuotable (c : Char) : Bool :=
  31 < c.toNat && c.toNat != 127

/-- Read one character of the parameters. -/
def parameterStep? (stage : ParameterStage) (c : Char) : Option ParameterStage :=
  match stage with
  | .start => if c == ' ' then some .start else if isTokenByte c then some .name else none
  | .name => if c == '=' then some (.value true) else if isTokenByte c then some .name else none
  | .value isEmpty =>
    if c == '"' && isEmpty then some (.quoted true)
    else if isTokenByte c then some (.value false)
    else if c == ';' && !isEmpty then some .start
    else none
  | .quoted isEmpty =>
    if c == '"' && !isEmpty then some .afterQuotes
    else if c == '\\' then some .escaped
    else if isQuotable c then some (.quoted false)
    else none
  | .escaped => if isQuotable c then some (.quoted false) else none
  | .afterQuotes =>
    if c == ';' then some .start else if c == ' ' then some .afterQuotes else none

/-- Whether parameters may end here. -/
def parametersMayEnd : ParameterStage → Bool
  | .start | .value _ | .afterQuotes => true
  | .name | .quoted _ | .escaped => false

/-- Whether a text consists of parameters, each but the last followed by a semicolon. -/
def areParameters (cs : List Char) : Bool :=
  match cs.foldlM parameterStep? .start with
  | some stage => parametersMayEnd stage
  | none => false

/-- The texts before and after the last plus sign that does not come first. -/
def splitSuffix (cs : List Char) : List Char × Option (List Char) :=
  match cs.reverse.span (· != '+') with
  | (_, []) => (cs, none)
  | (_, [_]) => (cs, none)
  | (after, _ :: before) => (before.reverse, some after.reverse)

/-- Characters in lower case. -/
def lowered (cs : List Char) : String :=
  String.ofList (cs.map Char.toLower)

/-- Read a media type. -/
def parse? (s : String) : Option MediaType :=
  let (main, rest) := s.toList.span isTokenByte
  match rest with
  | '/' :: rest =>
    let (sub, rest) := rest.span isTokenByte
    if main.isEmpty || (sub.isEmpty && !rest.isEmpty) then none
    else
      let (name, suffix) := splitSuffix sub
      let mediaType : MediaType := ⟨lowered main, lowered name, suffix.map lowered⟩
      match rest with
      | [] => some mediaType
      | ';' :: parameters => if areParameters parameters then some mediaType else none
      | _ => none
  | _ => none

/-- Whether bodies of this type are JSON. -/
def isJson (m : MediaType) : Bool :=
  m.sub == "json" || m.suffix == some "json"

end MediaType

end UserAccounts.Http
