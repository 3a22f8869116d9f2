import UserAccounts.Url.Parser

/-!
# Form-encoded queries

A query holds pairs of names and values: pairs are separated by `&`, a name from its value by `=`,
and inside of them a blank is written as `+`. `Form.decode` reads such a query, and `Url.addPairs`
writes further pairs at the end of the query of a URL.
-/

namespace UserAccounts.Url

namespace Form

/-- Characters that stand for themselves in names and values. -/
def isPlain (c : Char) : Bool :=
  c.isAlphanum || c == '*' || c == '-' || c == '.' || c == '_'

/-- The written form of a name or value. -/
def encodePart (s : String) : List Char :=
  s.toList.flatMap fun c => if c == ' ' then ['+'] else percentChar (!isPlain ·) c

/-- The written form of a pair. -/
def encodePair (pair : String × String) : List Char :=
  encodePart pair.1 ++ '=' :: encodePart pair.2

/-- The text that a written name or value stands for. -/
def decodePart (cs : List Char) : String :=
  Text.Utf8.decodeLossy (percentDecode (cs.map fun c => if c == '+' then ' ' else c))

/-- The pair that a text stands for; without `=` its value is empty. -/
def decodePair (cs : List Char) : String × String :=
  let (name, rest) := breakAt (· == '=') cs
  (decodePart name, decodePart (rest.drop 1))

/-- The pairs of a query. -/
def decode (query : String) : List (String × String) :=
  ((Json.splitChars '&' query.toList).filter (!·.isEmpty)).map decodePair

end Form

/-- A query with another pair at its end. -/
def addPair (query : List Char) (pair : String × String) : List Char :=
  if query.isEmpty then Form.encodePair pair else query ++ '&' :: Form.encodePair pair

/-- The URL with further pairs at the end of its query. -/
def addPairs (u : Url) (pairs : List (String × String)) : Url :=
  { u with query := some (String.ofList (pairs.foldl addPair (u.query.getD "").toList)) }

end UserAccounts.Url
