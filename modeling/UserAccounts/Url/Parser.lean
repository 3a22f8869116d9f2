import UserAccounts.Url.Host

/-!
# Reading URLs

A URL is read from the left: scheme, authority, path, query, fragment. What begins without a scheme
is relative to a base and takes over the parts that it does not bring itself. Special schemes take
a backslash for a slash, and always have a host and a path.

`Url.parse` reads an absolute URL, `Url.join` one that may be relative.
-/

namespace UserAccounts.Url

/-! ## Paths -/

/-- A drive letter, which file paths of some systems begin with. -/
def isDriveLetter : List Char → Bool
  | [c, mark] => c.isAlpha && (mark == ':' || mark == '|')
  | _ => false

/-- Whether a path begins with a drive letter. -/
def startsWithDriveLetter : List Char → Bool
  | [c, mark] => isDriveLetter [c, mark]
  | c :: mark :: next :: _ =>
    isDriveLetter [c, mark] && (next == '/' || next == '\\' || next == '?' || next == '#')
  | _ => false

/-- A segment with `%2e` read as a dot. -/
def dotted : List Char → List Char
  | '%' :: '2' :: 'e' :: rest | '%' :: '2' :: 'E' :: rest => '.' :: dotted rest
  | c :: rest => c :: dotted rest
  | [] => []

/-- The characters at which a path ends. -/
def endsPath (c : Char) : Bool :=
  c == '?' || c == '#'

/-- Characters split at every slash, in a special URL also at every backslash. -/
def splitSegments (special : Bool) : List Char → List (List Char)
  | [] => [[]]
  | c :: rest =>
    match splitSegments special rest with
    | part :: parts =>
      if c == '/' || (special && c == '\\') then [] :: part :: parts else (c :: part) :: parts
    | [] => [[c]]

/-- The segments before the last, the newest first, without the newest; a drive letter stays. -/
def popSegment : List String → List String
  | [] => []
  | last :: before => if isDriveLetter last.toList then last :: before else before

/-- Take in one segment of a path; the segments so far are given the newest first. One dot stands
for the segments so far, two dots for all but the newest. -/
def pushSegment (file : Bool) (parts : List String) (segment : List Char) (isLast : Bool) :
    List String :=
  let written := percentEncode inPath segment
  if dotted written == ['.', '.'] then
    if isLast then "" :: popSegment parts else popSegment parts
  else if dotted written == ['.'] then
    if isLast then "" :: parts else parts
  else if file && parts.isEmpty && isDriveLetter written then
    String.ofList (written.take 1 ++ [':']) :: parts
  else String.ofList written :: parts

/-- Take in the segments of a path, and give all in order. -/
def pushSegments (file : Bool) (parts : List String) : List (List Char) → List String
  | [] => parts.reverse
  | [last] => (pushSegment file parts last true).reverse
  | segment :: next :: rest =>
    pushSegments file (pushSegment file parts segment false) (next :: rest)

/-- The segments of a file path: empty ones at the beginning count for nothing. -/
def trimFilePath (parts : List String) : List String :=
  match parts.dropWhile String.isEmpty with
  | [] => [""]
  | trimmed => trimmed

/-! ## Input -/

/-- Text being read, as what stands before a mark and what comes from the mark on. -/
def breakAt (p : Char → Bool) (cs : List Char) : List Char × List Char :=
  cs.span fun c => !p c

/-- The query and the fragment that a text ends with. -/
structure Tail where
  query : Option String
  fragment : Option String

/-- Read the fragment of a URL, which begins with its mark. -/
def readFragment : List Char → Option String
  | '#' :: rest => some (String.ofList (percentEncode inFragment rest))
  | _ => none

/-- Read the query and the fragment of a URL. -/
def readTail (special : Bool) : List Char → Tail
  | '?' :: rest =>
    let (query, fragment) := breakAt (· == '#') rest
    ⟨some (String.ofList (percentEncode (if special then inSpecialQuery else inQuery) query)),
      readFragment fragment⟩
  | rest => ⟨none, readFragment rest⟩

/-- Read the path, the query and the fragment of a URL whose first parts are known, from the
beginning of a segment on. The segments so far are given the newest first. -/
def readPath (scheme : String) (authority : Option Authority) (parts : List String)
    (cs : List Char) : Url :=
  let special := isSpecialScheme scheme
  let file := scheme == "file"
  let (path, rest) := breakAt endsPath cs
  let segments := pushSegments file parts (splitSegments special path)
  let tail := readTail special rest
  ⟨scheme, authority, .segments (if file then trimFilePath segments else segments), tail.query,
    tail.fragment⟩

/-- Read what follows the authority of a URL. -/
def readAfterAuthority (scheme : String) (authority : Authority) (cs : List Char) : Url :=
  let special := isSpecialScheme scheme
  match cs with
  | '/' :: rest => readPath scheme (some authority) [] rest
  | '\\' :: rest =>
    if special then readPath scheme (some authority) [] rest
    else readPath scheme (some authority) [] ('\\' :: rest)
  | rest =>
    if special then readPath scheme (some authority) [] rest
    else
      let tail := readTail false rest
      ⟨scheme, some authority, .segments [], tail.query, tail.fragment⟩

/-! ## Authorities -/

/-- Whether a character ends the authority of a URL. -/
def endsAuthority (special : Bool) (c : Char) : Bool :=
  c == '/' || c == '?' || c == '#' || (special && c == '\\')

/-- The texts before and after the last `@`. -/
def splitLastAt (cs : List Char) : Option (List Char × List Char) :=
  match cs.reverse.span (· != '@') with
  | (_, []) => none
  | (after, _ :: before) => some (before.reverse, after.reverse)

/-- A user name and a password, both percent-encoded. -/
def readUserinfo (cs : List Char) : String × String :=
  let (name, rest) := breakAt (· == ':') cs
  (String.ofList (percentEncode inUserinfo name),
    String.ofList (percentEncode inUserinfo (rest.drop 1)))

/-- The characters of a host: up to a colon outside of brackets. -/
def spanHost : Bool → List Char → List Char × List Char
  | _, [] => ([], [])
  | inBrackets, c :: rest =>
    if c == ':' && !inBrackets then ([], c :: rest)
    else
      let (host, after) := spanHost (c == '[' || (inBrackets && c != ']')) rest
      (c :: host, after)

/-- Read a port number; the port of the scheme is left out. -/
def readPort (scheme : String) (digits : List Char) : Except UrlError (Option Nat) :=
  if digits.isEmpty then .ok none
  else
    match (Text.readDigits 65535 0 digits).toOption with
    | none => .error .invalidPort
    | some port => .ok (if defaultPort? scheme == some port then none else some port)

/-- Read the host of a URL whose scheme is not `file`. -/
def readHost (scheme : String) (cs : List Char) : Except UrlError Host :=
  if isSpecialScheme scheme then
    if cs.isEmpty then .error .emptyHost else parseHost cs
  else parseOpaqueHost cs

/-- A user name and a password with the text after them, which must not be empty if the name is and
more text follows the authority. -/
def readCredentials (cs : List Char) (more : Bool) :
    Except UrlError ((String × String) × List Char) :=
  match splitLastAt cs with
  | none => .ok (("", ""), cs)
  | some ([], rest) => if rest.isEmpty && more then .error .emptyHost else .ok (("", ""), rest)
  | some (userinfo, rest) => .ok (readUserinfo userinfo, rest)

/-- Read an authority. A backslash after the port belongs to the path, and is given back. -/
def readAuthority (scheme : String) (cs : List Char) (more : Bool) :
    Except UrlError (Authority × List Char) := do
  let ((username, password), rest) ← readCredentials cs more
  let (hostChars, portChars) := spanHost false rest
  let host ← readHost scheme hostChars
  let (digits, excess) := (portChars.drop 1).span Char.isDigit
  if host == .name "" && !portChars.isEmpty then .error .emptyHost
  let port ← readPort scheme digits
  if !excess.isEmpty && excess.head? != some '\\' then .error .invalidPort
  if host == .name "" && !(username.isEmpty && password.isEmpty) then .error .emptyHost
  .ok (⟨username, password, host, port⟩, excess)

/-- Read a URL of a scheme other than `file` from after its two slashes. -/
def readFromAuthority (scheme : String) (cs : List Char) : Except UrlError Url := do
  let (chars, rest) := breakAt (endsAuthority (isSpecialScheme scheme)) cs
  let (authority, excess) ← readAuthority scheme chars (!rest.isEmpty)
  .ok (readAfterAuthority scheme authority (excess ++ rest))

/-! ## File URLs -/

/-- The authority of a file URL without host. -/
def noHost : Authority := ⟨"", "", .name "", none⟩

/-- Whether a character is a slash of either kind. -/
def isAnySlash (c : Char) : Bool :=
  c == '/' || c == '\\'

/-- Read a file URL from after its two slashes. A path with a drive letter leaves no room for a
host. -/
def readFileHost (cs : List Char) : Except UrlError Url := do
  let (hostChars, rest) := breakAt (fun c => isAnySlash c || endsPath c) cs
  if isDriveLetter hostChars then .ok (readPath "file" (some noHost) [] cs)
  else if hostChars.isEmpty then .ok (readAfterAuthority "file" noHost rest)
  else
    let host ← parseHost hostChars
    let host := if host == .name "localhost" then .name "" else host
    let u := readAfterAuthority "file" { noHost with host := host } rest
    match u.path with
    | .segments (first :: _) =>
      .ok (if isDriveLetter first.toList then { u with authority := some noHost } else u)
    | _ => .ok u

/-- The parts that a path beginning with one slash takes over from a base: its drive letter, or else
its host. -/
def fileRoot (base : Option Url) (startsWithDrive : Bool) : Authority × List String :=
  match base with
  | none => (noHost, [])
  | some b =>
    if startsWithDrive then (noHost, [])
    else
      match b.path with
      | .segments (first :: _) =>
        if isDriveLetter first.toList then (noHost, [first]) else (b.authority.getD noHost, [])
      | _ => (b.authority.getD noHost, [])

/-- Read a file URL from after its scheme; the base is a file URL too. -/
def readFile (base : Option Url) (cs : List Char) : Except UrlError Url :=
  match cs with
  | first :: rest =>
    if isAnySlash first then
      match rest with
      | second :: afterSlashes =>
        if isAnySlash second then readFileHost afterSlashes
        else
          let (authority, parts) := fileRoot base (startsWithDriveLetter rest)
          .ok (readPath "file" (some authority) parts rest)
      | [] =>
        let (authority, parts) := fileRoot base false
        .ok (readPath "file" (some authority) parts [])
    else
      match base with
      | none => .ok (readPath "file" (some noHost) [] cs)
      | some b =>
        let tail := readTail true cs
        if first == '?' then .ok { b with query := tail.query, fragment := tail.fragment }
        else if first == '#' then .ok { b with fragment := tail.fragment }
        else if startsWithDriveLetter cs then .ok (readPath "file" (some noHost) [] cs)
        else
          match b.path with
          | .segments parts => .ok (readPath "file" b.authority (popSegment parts.reverse) cs)
          | .whole _ => .ok (readPath "file" b.authority [] cs)
  | [] =>
    match base with
    | none => .ok (readPath "file" (some noHost) [] [])
    | some b => .ok { b with fragment := none }

/-! ## Relative URLs -/

/-- Read a URL relative to a base that is no file URL. -/
def readRelative (base : Url) (cs : List Char) : Except UrlError Url :=
  let tail := readTail (isSpecialScheme base.scheme) cs
  match cs with
  | [] => .ok { base with fragment := none }
  | '?' :: _ => .ok { base with query := tail.query, fragment := tail.fragment }
  | '#' :: _ => .ok { base with fragment := tail.fragment }
  | '/' :: '/' :: rest => readFromAuthority base.scheme rest
  | first :: rest =>
    if isAnySlash first then
      match rest with
      | second :: _ =>
        if isAnySlash second then readFromAuthority base.scheme (cs.dropWhile isAnySlash)
        else .ok (readPath base.scheme base.authority [] rest)
      | [] => .ok (readPath base.scheme base.authority [] rest)
    else
      match base.path with
      | .segments parts => .ok (readPath base.scheme base.authority (parts.reverse.drop 1) cs)
      | .whole _ => .error .relativeToWhole

/-! ## Absolute URLs -/

/-- Read a URL of a scheme that is not special from after its scheme. -/
def readOther (scheme : String) (cs : List Char) : Except UrlError Url :=
  match cs with
  | '/' :: '/' :: rest => readFromAuthority scheme rest
  | '/' :: rest => .ok (readPath scheme none [] rest)
  | _ =>
    let (path, rest) := breakAt endsPath cs
    let tail := readTail false rest
    .ok ⟨scheme, none, .whole (String.ofList (percentEncode inControls path)), tail.query,
      tail.fragment⟩

/-- Read a URL from after its scheme. -/
def readWithScheme (base : Option Url) (scheme : String) (cs : List Char) : Except UrlError Url :=
  if scheme == "file" then readFile (base.filter (·.scheme == "file")) cs
  else if isSpecialScheme scheme then
    let slashes := (cs.takeWhile isAnySlash).length
    match base with
    | some b =>
      if slashes < 2 && b.scheme == scheme then readRelative b cs
      else readFromAuthority scheme (cs.drop slashes)
    | none => readFromAuthority scheme (cs.drop slashes)
  else readOther scheme cs

/-- The scheme that a text begins with, in lower case, and what follows its colon. -/
def readScheme? (cs : List Char) : Option (String × List Char) :=
  match cs with
  | first :: _ =>
    if first.isAlpha then
      match cs.span fun c => c.isAlphanum || c == '+' || c == '-' || c == '.' with
      | (scheme, ':' :: rest) => some (String.ofList (scheme.map Char.toLower), rest)
      | _ => none
    else none
  | [] => none

/-- Read a URL from characters without surrounding blanks. -/
def readChars (base : Option Url) (cs : List Char) : Except UrlError Url :=
  match readScheme? cs with
  | some (scheme, rest) => readWithScheme base scheme rest
  | none =>
    match base with
    | none => .error .relativeWithoutBase
    | some b =>
      match cs with
      | '#' :: _ => .ok { b with fragment := readFragment cs }
      | _ =>
        if !b.canBeBase then .error .relativeToWhole
        else if b.scheme == "file" then readFile base cs
        else readRelative b cs

/-- The characters of a URL text: controls and blanks at both ends do not count, and neither do tabs
and line ends anywhere. -/
def significantChars (s : String) : List Char :=
  let trimmed := (s.toList.dropWhile (·.toNat ≤ 0x20)).reverse.dropWhile (·.toNat ≤ 0x20)
  trimmed.reverse.filter fun c => c != '\t' && c != '\n' && c != '\r'

/-- Read an absolute URL. -/
def parse (s : String) : Except UrlError Url :=
  readChars none (significantChars s)

/-- Read a URL that may be relative to a base. -/
def join (base : Url) (s : String) : Except UrlError Url :=
  readChars (some base) (significantChars s)

end UserAccounts.Url
