import UserAccounts.Url.Address
import UserAccounts.Url.Percent

/-!
# URLs

A URL taken apart, with every part in the form in which it is written. `Url.text` puts the parts
together again.
-/

namespace UserAccounts

/-- The host of a URL. -/
inductive Host where
  | name (s : String)
  | ipv4 (address : Nat)
  | ipv6 (groups : List Nat)
  deriving DecidableEq

/-- The written form of a host. -/
def Host.text : Host → String
  | .name s => s
  | .ipv4 address => String.ofList (Url.ipv4Text address)
  | .ipv6 groups => String.ofList ('[' :: Url.ipv6Text groups ++ [']'])

/-- What stands after the two slashes of a URL. An absent host is an empty name. -/
structure Authority where
  username : String
  password : String
  host : Host
  port : Option Nat
  deriving DecidableEq

/-- The written form of an authority. -/
def Authority.text (a : Authority) : String :=
  (if a.username.isEmpty && a.password.isEmpty then ""
    else if a.password.isEmpty then a.username ++ "@"
    else a.username ++ ":" ++ a.password ++ "@") ++
  a.host.text ++
  match a.port with
  | some port => ":" ++ Text.natural port
  | none => ""

/-- The path of a URL. -/
inductive UrlPath where
  /-- Text that has no parts: nothing can be relative to such a URL. -/
  | whole (s : String)
  | segments (parts : List String)
  deriving DecidableEq

/-- The written form of a path. -/
def UrlPath.text : UrlPath → String
  | .whole s => s
  | .segments parts => String.join (parts.map ("/" ++ ·))

/-- A URL. -/
structure Url where
  scheme : String
  authority : Option Authority
  path : UrlPath
  query : Option String
  fragment : Option String
  deriving DecidableEq

namespace Url

/-- The part of a URL before its path. A path that begins with two slashes needs a mark where there
is no authority, or it would be taken for one. -/
def origin (u : Url) : String :=
  u.scheme ++ ":" ++
  match u.authority with
  | some a => "//" ++ a.text
  | none =>
    match u.path with
    | .segments ("" :: _ :: _) => "/."
    | _ => ""

/-- A part that may be absent, after its mark. -/
def marked (mark : String) : Option String → String
  | some s => mark ++ s
  | none => ""

/-- The URL without its query and its fragment. -/
def base (u : Url) : String :=
  u.origin ++ u.path.text

/-- The written form of a URL. -/
def text (u : Url) : String :=
  u.base ++ marked "?" u.query ++ marked "#" u.fragment

/-- Schemes whose URLs always have a host and a path. -/
def isSpecialScheme (scheme : String) : Bool :=
  ["http", "https", "ws", "wss", "ftp", "file"].contains scheme

/-- The port of a scheme, which is left out when it is written. -/
def defaultPort? (scheme : String) : Option Nat :=
  [("http", 80), ("https", 443), ("ws", 80), ("wss", 443), ("ftp", 21)].lookup scheme

/-- Whether other URLs can be relative to this one. -/
def canBeBase (u : Url) : Bool :=
  match u.path with
  | .whole _ => false
  | .segments _ => true

end Url

/-- Why a text is no URL. -/
inductive UrlError where
  | relativeWithoutBase
  | relativeToWhole
  | emptyHost
  | invalidPort
  | invalidIpv6
  | invalidIpv4
  /-- The host of a special URL is no domain name. -/
  | invalidDomain
  /-- The host of another URL contains a forbidden character. -/
  | invalidHostCharacter
  deriving DecidableEq

/-- The wording of a refused URL. -/
def UrlError.message : UrlError → String
  | .relativeWithoutBase => "relative URL without a base"
  | .relativeToWhole => "relative URL with a cannot-be-a-base base"
  | .emptyHost => "empty host"
  | .invalidPort => "invalid port number"
  | .invalidIpv6 => "invalid IPv6 address"
  | .invalidIpv4 => "invalid IPv4 address"
  | .invalidDomain => "invalid international domain name"
  | .invalidHostCharacter => "invalid domain character"

end UserAccounts
