import UserAccounts.Url.Address

/-!
# Socket addresses

An address to listen on: an IPv4 address, or an IPv6 address in brackets, and a port. Names are not
resolved. `SocketAddress.parse?` reads one and `SocketAddress.text` writes it.
-/

namespace UserAccounts

/-- An address with a port. -/
inductive SocketAddress where
  | v4 (address port : Nat)
  /-- The groups of the address, and the number of the network that it belongs to. -/
  | v6 (groups : List Nat) (scope port : Nat)
  deriving DecidableEq

namespace SocketAddress

/-- The largest port. -/
def maxPort : Nat := 0xFFFF

/-- The largest number of a network. -/
def maxScope : Nat := 0xFFFFFFFF

/-- A number in decimal digits; zeros may stand before it. -/
def plainNumber? (limit : Nat) (digits : List Char) : Option Nat :=
  if digits.isEmpty then none else (Text.readDigits limit 0 digits).toOption

/-- An IPv4 address in four decimal numbers. -/
def ipv4? (cs : List Char) : Option Nat :=
  match Url.dottedGroups? cs with
  | some [high, low] => some (65536 * high + low)
  | _ => none

/-- The parts before and after the last colon. -/
def splitPort? (cs : List Char) : Option (List Char × List Char) :=
  match cs.reverse.span (· != ':') with
  | (port, _ :: host) => some (host.reverse, port.reverse)
  | _ => none

/-- An address in brackets, perhaps with the number of its network after a percent sign. -/
def bracketed? (host : List Char) : Option (List Nat × Nat) :=
  match host, host.getLast? with
  | '[' :: rest, some ']' =>
    match rest.dropLast.span (· != '%') with
    | (address, []) => (Url.parseIpv6? address).map fun groups => (groups, 0)
    | (address, _ :: scope) =>
      match Url.parseIpv6? address, plainNumber? maxScope scope with
      | some groups, some scope => some (groups, scope)
      | _, _ => none
  | _, _ => none

/-- Read a socket address. -/
def parse? (s : String) : Option SocketAddress :=
  match splitPort? s.toList with
  | none => none
  | some (host, port) =>
    match plainNumber? maxPort port with
    | none => none
    | some port =>
      match bracketed? host with
      | some (groups, scope) => some (.v6 groups scope port)
      | none => (ipv4? host).map fun address => .v4 address port

/-- The groups of an IPv6 address; one that stands for an IPv4 address ends in the form of that. -/
def groupsText (groups : List Nat) : List Char :=
  match groups with
  | [0, 0, 0, 0, 0, 65535, high, low] =>
    "::ffff:".toList ++ Url.ipv4Text (65536 * high + low)
  | _ => Url.ipv6Text groups

/-- Write a socket address. -/
def text : SocketAddress → String
  | .v4 address port => String.ofList (Url.ipv4Text address) ++ ":" ++ Text.natural port
  | .v6 groups scope port =>
    let shownScope := if scope = 0 then "" else "%" ++ Text.natural scope
    "[" ++ String.ofList (groupsText groups) ++ shownScope ++ "]:" ++ Text.natural port

end SocketAddress

end UserAccounts
