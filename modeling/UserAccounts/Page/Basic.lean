import UserAccounts.Page.Links

/-!
# Pages

A page of a listing: its links, the number of all elements, and the elements on the page in order.
-/

namespace UserAccounts

/-- A page of a listing. -/
structure Page (α : Type) where
  links : PageLinks
  total : Nat
  data : List α

namespace Page

variable {α β : Type}

/-- The page with every element changed, its links and total kept. -/
def map (f : α → β) (p : Page α) : Page β :=
  ⟨p.links, p.total, p.data.map f⟩

/-- The page with every element changed by a function that also gets its number, counted from 1. -/
def mapNumbered (f : Nat → α → β) (p : Page α) : Page β :=
  ⟨p.links, p.total, p.data.mapIdx fun i a => f (i + 1) a⟩

instance [Json.Encode α] : Json.Encode (Page α) where
  encode p := .object
    [("links", Json.encode p.links), ("total", .natural p.total),
      ("data", .array (p.data.map Json.encode))]

/-- The fields of a page. -/
def fieldRules : List Json.FieldRule :=
  [.needed "links", .needed "total", .needed "data"]

instance [Json.Decode α] : Json.Decode (Page α) where
  decode?
    | 0, _ => none
    | depth + 1, d =>
      match d.fields? fieldRules with
      | some [links, total, data] =>
        match Json.required? depth links,
            total.bind (Json.integerWithin? 0 (Text.maxUnsigned64 : Nat)),
            Json.required? depth data with
        | some links, some total, some data => some ⟨links, total.toNat, data⟩
        | _, _, _ => none
      | _ => none

end Page

end UserAccounts
