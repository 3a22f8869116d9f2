import UserAccounts.Url.Basic
import UserAccounts.Url.Idna

/-!
# Reading hosts

The host of a special URL is an address or a domain name, which is brought into its ASCII form. The
host of any other URL is taken as it stands, apart from IPv6 addresses.
-/

namespace UserAccounts.Url

/-- An IPv6 address in brackets, if the text begins with one. -/
def bracketedHost? (cs : List Char) : Option (Except UrlError Host) :=
  match cs with
  | '[' :: rest =>
    match rest.reverse with
    | ']' :: inside =>
      match parseIpv6? inside.reverse with
      | some groups => some (.ok (.ipv6 groups))
      | none => some (.error .invalidIpv6)
    | _ => some (.error .invalidIpv6)
  | _ => none

/-- Characters that no host contains as they are. -/
def isForbiddenInHost (c : Char) : Bool :=
  c == '\x00' || c == '\t' || c == '\n' || c == '\r' || c == ' ' || c == '#' || c == '/' ||
    c == ':' || c == '<' || c == '>' || c == '?' || c == '@' || c == '[' || c == '\\' || c == ']' ||
    c == '^' || c == '|'

/-- The host of a URL that is not special. -/
def parseOpaqueHost (cs : List Char) : Except UrlError Host :=
  match bracketedHost? cs with
  | some result => result
  | none =>
    if cs.any isForbiddenInHost then .error .invalidHostCharacter
    else .ok (.name (String.ofList (percentEncode inControls cs)))

/-- The host of a special URL. -/
def parseHost (cs : List Char) : Except UrlError Host :=
  match bracketedHost? cs with
  | some result => result
  | none =>
    match (Text.Utf8.decode (percentDecode cs)).toOption.bind Idna.toAscii? with
    | none => .error .invalidDomain
    | some domain =>
      if domain.isEmpty then .error .emptyHost
      else if endsInNumber domain then
        match parseIpv4? domain with
        | some address => .ok (.ipv4 address)
        | none => .error .invalidIpv4
      else .ok (.name (String.ofList domain))

end UserAccounts.Url
