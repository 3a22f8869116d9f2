import UserAccounts.Json.Decoder
import UserAccounts.Page.Window
import UserAccounts.Url.Form

/-!
# Links between pages

The links by which a client walks through a listing: to the collection itself, to the page after the
present one if there is more, and to the page before unless it is the first. A link says the limit
only if it is not the default one, and the start only if it is not 0.
-/

namespace UserAccounts

open Text (Inspect inspect)

/-- The links of a page. -/
structure PageLinks where
  base : String
  collection : String
  next : Option String
  previous : Option String
  deriving DecidableEq

namespace PageLinks

/-- The pairs by which a link asks for a page. -/
def pagePairs (limit start : Nat) : List (String × String) :=
  (if limit = Window.defaultLimit then [] else [("limit", Text.natural limit)]) ++
    (if start = 0 then [] else [("start", Text.natural start)])

/-- The link to a page of a collection. -/
def pageUrl (collection : Url) (limit start : Nat) : Url :=
  match pagePairs limit start with
  | [] => collection
  | pairs => collection.addPairs pairs

/-- The links of the page of a collection that a window shows. -/
def ofCollection (base collection : Url) (w : Window) (hasNext : Bool) : PageLinks where
  base := base.text
  collection := collection.text
  next := if hasNext then some (pageUrl collection w.limit w.nextOffset).text else none
  previous := if 0 < w.offset then some (pageUrl collection w.limit w.previousOffset).text else none

/-- A path that cannot be resolved against the base of the links. -/
structure InvalidPath where
  path : String
  cause : UrlError
  deriving DecidableEq

/-- The wording of a path that cannot be resolved. -/
def InvalidPath.message (e : InvalidPath) : String :=
  "invalid path prefix \x60" ++ e.path ++ "\x60: " ++ e.cause.message

/-- The links of a page of the collection at a path. -/
def build (base : Url) (path : String) (w : Window) (hasNext : Bool) :
    Except InvalidPath PageLinks :=
  match base.join path with
  | .error cause => .error ⟨path, cause⟩
  | .ok collection => .ok (ofCollection base collection w hasNext)

/-- A member that is left out if it is absent. -/
def optionalMember (name : String) : Option String → List (String × Json.Value)
  | some s => [(name, .string s)]
  | none => []

instance : Json.Encode PageLinks where
  encode l := .object <|
    [("base", .string l.base), ("self", .string l.collection)] ++ optionalMember "next" l.next ++
      optionalMember "prev" l.previous

/-- The fields of page links. -/
def fieldRules : List Json.FieldRule :=
  [.needed "base", .needed "self", ⟨"next", true, true⟩, ⟨"prev", true, true⟩]

instance : Json.Decode PageLinks where
  decode?
    | 0, _ => none
    | depth + 1, d =>
      match d.fields? fieldRules with
      | some [base, collection, next, previous] =>
        match Json.required? depth base, Json.required? depth collection,
            Json.optional? depth next, Json.optional? depth previous with
        | some base, some collection, some next, some previous =>
          some ⟨base, collection, next, previous⟩
        | _, _, _, _ => none
      | _ => none

instance : Inspect PageLinks where
  inspect l := Inspect.record "PageLinks"
    [("base", inspect l.base), ("self_link", inspect l.collection), ("next", inspect l.next),
      ("prev", inspect l.previous)]

end PageLinks

end UserAccounts
