import UserAccounts.Http.Message
import UserAccounts.Url.Form

/-!
# Request targets

The target of a request is a path with a query, perhaps after a scheme and an authority. A path is
matched after its escapes have been resolved, except for those of the slash, the percent sign and
the plus sign, which are left for the reader of the part in which they stand.
-/

namespace UserAccounts.Http

open UserAccounts.Url (breakAt)

/-- A request target taken apart, without a fragment. -/
structure Target where
  path : String
  query : String
  deriving DecidableEq

namespace Target

/-- The rest of a target after its scheme and its two slashes. -/
def afterScheme? : List Char → Option (List Char)
  | ':' :: '/' :: '/' :: rest => some rest
  | c :: rest =>
    if c.isAlphanum || c == '+' || c == '-' || c == '.' then afterScheme? rest else none
  | [] => none

/-- A target without scheme and authority. -/
def local? (cs : List Char) : List Char :=
  match afterScheme? cs with
  | some rest => rest.dropWhile fun c => c != '/' && c != '?' && c != '#'
  | none => cs

/-- Take a target apart. -/
def parse (s : String) : Target :=
  let (path, rest) := breakAt (fun c => c == '?' || c == '#') (local? s.toList)
  let query := match rest with
    | '?' :: rest => (breakAt (· == '#') rest).1
    | _ => []
  ⟨String.ofList (if path.isEmpty then ['/'] else path), String.ofList query⟩

/-- The bytes of a path, with all escapes resolved but those of the protected bytes. -/
def unescape (isProtected : Nat → Bool) : List Char → List UInt8
  | [] => []
  | '%' :: high :: low :: rest =>
    match Text.hexValue? high, Text.hexValue? low with
    | some h, some l =>
      if isProtected (16 * h + l) then
        0x25 :: (String.utf8EncodeChar high ++ String.utf8EncodeChar low) ++
          unescape isProtected rest
      else UInt8.ofNat (16 * h + l) :: unescape isProtected rest
    | _, _ => 0x25 :: unescape isProtected (high :: low :: rest)
  | c :: rest => String.utf8EncodeChar c ++ unescape isProtected rest

/-- The slash, the percent sign and the plus sign. -/
def isProtectedInPath (byte : Nat) : Bool :=
  byte == 0x2F || byte == 0x25 || byte == 0x2B

/-- The path as it is matched. -/
def matched (t : Target) : String :=
  Text.Utf8.decodeLossy (unescape isProtectedInPath t.path.toList)

/-- A part of a matched path with the remaining escapes resolved. -/
def part (s : String) : String :=
  Text.Utf8.decodeLossy (unescape (fun _ => false) s.toList)

end Target

end UserAccounts.Http
