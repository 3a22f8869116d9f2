import Mathlib
import UserAccounts.Http.Body
import UserAccounts.Page.Basic
import UserAccounts.Proofs.Json.Values

/-!
# Bodies are read back

What is written as JSON is read as what it was (`written_reads_back`): identifiers, page links, the
body of a creation, accounts, and pages of accounts, whatever is in their texts, as long as their
numbers have 64 bits. Links that are absent are left out of the text.

`Json.ReadsBack` follows from decoding the document of the value (`Json.readsBack_of_decode?`), so
for each type it is left to show that its decoder undoes its encoder.
-/

namespace UserAccounts

namespace Json

variable {α β : Type}

/-! ## Reading back -/

/-- Reading the text of a value gives the value, and whatever is read from that text is written the
same again. -/
def ReadsBack [Encode α] [Decode α] (a : α) : Prop :=
  read? (text a) = some a ∧ ∀ b : α, read? (text a) = some b → text b = text a

theorem readsBack_of_decode? [Encode α] [Decode α] {a : α} (hwhole : (encode a).isWhole = true)
    (h : decode? maxDepth (encode a).document = some a) : ReadsBack a := by
  have hread : read? (text a) = some a := by
    unfold read? text
    rw [Document.read?_compact hwhole]
    exact h
  refine ⟨hread, fun b hb => ?_⟩
  rw [hread] at hb
  cases hb
  rfl

/-! ## Lists and members -/

theorem decodeAll?_eq [Decode β] {depth : Nat} {docs : α → Document} {as : List α} {bs : α → β}
    (h : ∀ a ∈ as, decode? depth (docs a) = some (bs a)) :
    decodeAll? depth (as.map docs) = some (as.map bs) := by
  induction as with
  | nil => rfl
  | cons a rest ih =>
    obtain ⟨ha, hrest⟩ := List.forall_mem_cons.mp h
    rw [List.map_cons, decodeAll?, ha, ih hrest]
    rfl

theorem memberDocuments_keys (members : List (String × Value)) :
    (memberDocuments members).map (·.1.text) = members.map (·.1) := by
  induction members with
  | nil => rfl
  | cons m rest ih => rw [memberDocuments, List.map_cons, List.map_cons, ih]; rfl

end Json

open Json (Document)

/-! ## Links -/

/-- The object shows which of the links of a page there are. -/
def PageLinks.ShownBy (l : PageLinks) (d : Document) : Prop :=
  ∃ members, d = .object members ∧
    ("next" ∈ members.map (·.1.text) ↔ l.next.isSome) ∧
    ("prev" ∈ members.map (·.1.text) ↔ l.previous.isSome)

theorem PageLinks.isWhole_encode (l : PageLinks) : (Json.encode l).isWhole = true := by
  obtain ⟨base, collection, next, previous⟩ := l
  cases next <;> cases previous <;> rfl

theorem PageLinks.decode?_document (l : PageLinks) (depth : Nat) :
    Json.decode? (depth + 1) (Json.encode l).document = some l := by
  obtain ⟨base, collection, next, previous⟩ := l
  cases next <;> cases previous <;> rfl

/-- A link that is absent has no key. -/
theorem PageLinks.shownBy_document (l : PageLinks) : l.ShownBy (Json.encode l).document := by
  obtain ⟨base, collection, next, previous⟩ := l
  have hkeys := Json.memberDocuments_keys <|
    [("base", .string base), ("self", .string collection)] ++
      optionalMember "next" next ++ optionalMember "prev" previous
  refine ⟨_, rfl, ?_, ?_⟩ <;> rw [hkeys] <;> cases next <;> cases previous <;>
    simp [optionalMember]

/-! ## Accounts -/

/-- A number of 64 bits with sign. -/
def IsSigned64 (n : Int) : Prop :=
  Int64.minValue.toInt ≤ n ∧ n ≤ Int64.maxValue.toInt

instance (n : Int) : Decidable (IsSigned64 n) := inferInstanceAs (Decidable (_ ∧ _))

theorem CreateAccountBody.decode?_document (b : CreateAccountBody) (depth : Nat) :
    Json.decode? (depth + 1) (Json.encode b).document = some b := rfl

namespace UserView

theorem signed?_ofInt {n : Int} (hn : IsSigned64 n) :
    signed? (some (.number (.ofInt n))) = some n :=
  Json.integerWithin?_ofInt (by decide) (by decide) hn

/-- The time of creation of the user is a number of 64 bits. -/
def Fits (u : UserView) : Prop := IsSigned64 u.createdAt

instance (u : UserView) : Decidable u.Fits := inferInstanceAs (Decidable (IsSigned64 _))

theorem decode?_document {u : UserView} (hu : u.Fits) (depth : Nat) :
    Json.decode? (depth + 1) (Json.encode u).document = some u := by
  have hfields : (Json.encode u).document.fields? fieldRules =
      some [some (.string (.whole u.id)), some (.string (.whole u.firstName)),
        some (.string (.whole u.lastName)), some (.number (.ofInt u.createdAt))] := rfl
  have hcreated := signed?_ofInt hu
  simp only [Json.decode?]
  rw [hfields]
  simp only [Json.required?_string, hcreated]

end UserView

namespace AccountView

/-- The times of creation of the account and of its user are numbers of 64 bits. -/
structure Fits (a : AccountView) : Prop where
  account : IsSigned64 a.createdAt
  user : a.user.Fits

theorem isWhole_encode (a : AccountView) : (Json.encode a).isWhole = true := rfl

theorem decode?_document {a : AccountView} (ha : a.Fits) (depth : Nat) :
    Json.decode? (depth + 2) (Json.encode a).document = some a := by
  have hfields : (Json.encode a).document.fields? fieldRules =
      some [some (.string (.whole a.id)), some (.string (.whole a.username)),
        some (Json.encode a.user).document, some (.number (.ofInt a.createdAt))] := rfl
  have hcreated := UserView.signed?_ofInt ha.account
  have huser : Json.required? (depth + 1) (some (Json.encode a.user).document) = some a.user :=
    UserView.decode?_document ha.user depth
  simp only [Json.decode?]
  rw [hfields]
  simp only [Json.required?_string, huser, hcreated]

end AccountView

/-! ## Pages -/

namespace Page

variable {p : Page AccountView}

/-- The total and all times of creation on the page are numbers of 64 bits. -/
structure Fits (p : Page AccountView) : Prop where
  total : p.total ≤ Text.maxUnsigned64
  data : ∀ a ∈ p.data, a.Fits

theorem isWhole_encode (p : Page AccountView) : (Json.encode p).isWhole = true := by
  have hitems (as : List AccountView) : Json.itemsWhole (as.map Json.encode) = true := by
    induction as with
    | nil => rfl
    | cons a rest ih =>
      simp only [List.map_cons, Json.itemsWhole, a.isWhole_encode, ih, Bool.and_self]
  show ((Json.encode p.links).isWhole &&
    (true && (Json.itemsWhole (p.data.map Json.encode) && true))) = true
  rw [p.links.isWhole_encode, hitems]
  rfl

theorem decodeAll?_documents {as : List AccountView} (h : ∀ a ∈ as, a.Fits) (depth : Nat) :
    Json.decodeAll? (depth + 2) (Json.itemDocuments (as.map Json.encode)) = some as := by
  have hitem : ∀ a ∈ as, Json.decode? (depth + 2) (Json.encode a).document = some (id a) :=
    fun a ha => AccountView.decode?_document (h a ha) depth
  have hall := Json.decodeAll?_eq hitem
  rw [List.map_id] at hall
  rw [Json.itemDocuments_eq_map, List.map_map]
  exact hall

theorem decode?_document (hp : p.Fits) (depth : Nat) :
    Json.decode? (depth + 4) (Json.encode p).document = some p := by
  have hfields : (Json.encode p).document.fields? fieldRules =
      some [some (Json.encode p.links).document, some (.number (.ofInt p.total)),
        some (.array (Json.itemDocuments (p.data.map Json.encode)))] := rfl
  have hlinks : Json.required? (depth + 3) (some (Json.encode p.links).document) = some p.links :=
    p.links.decode?_document (depth + 2)
  have htotal : (some (Document.number (.ofInt p.total))).bind
      (Json.integerWithin? 0 (Text.maxUnsigned64 : Nat)) = some (p.total : Int) :=
    Json.integerWithin?_ofInt (by decide) (le_refl _)
      ⟨Int.natCast_nonneg _, Int.ofNat_le.mpr hp.total⟩
  have hdata : Json.required? (depth + 3)
      (some (Document.array (Json.itemDocuments (p.data.map Json.encode)))) = some p.data :=
    decodeAll?_documents hp.data depth
  simp only [Json.decode?]
  rw [hfields]
  simp only [hlinks, htotal, hdata, Int.toNat_natCast]

/-- The links in the document of a page show which of them there are. -/
theorem exists_links_document (p : Page AccountView) :
    ∃ members links, (Json.encode p).document = .object members ∧
      Json.uniqueMember? "links" members = some (some links) ∧ p.links.ShownBy links :=
  ⟨_, _, rfl, rfl, p.links.shownBy_document⟩

end Page

/-! ## All bodies -/

/-- Whatever is written is read as itself, and what has been read is written the same again: any
identifier, links and body of a creation, and any account and page of accounts whose numbers have 64
bits. Of the links of a page, those that are absent have no key in its text. -/
theorem written_reads_back :
    (∀ id : Id, Json.ReadsBack id) ∧
    (∀ l : PageLinks, Json.ReadsBack l ∧
      ∃ d, Document.read? (Json.text l) = some d ∧ l.ShownBy d) ∧
    (∀ b : CreateAccountBody, Json.ReadsBack b) ∧
    (∀ a : AccountView, a.Fits → Json.ReadsBack a) ∧
    (∀ p : Page AccountView, p.Fits → Json.ReadsBack p ∧
      ∃ members links, Document.read? (Json.text p) = some (.object members) ∧
        Json.uniqueMember? "links" members = some (some links) ∧ p.links.ShownBy links) := by
  refine ⟨fun id => ?_, fun l => ⟨?_, ?_⟩, fun b => ?_, fun a ha => ?_, fun p hp => ⟨?_, ?_⟩⟩
  · exact Json.readsBack_of_decode? rfl rfl
  · exact Json.readsBack_of_decode? l.isWhole_encode (l.decode?_document 126)
  · exact ⟨_, Document.read?_compact l.isWhole_encode, l.shownBy_document⟩
  · exact Json.readsBack_of_decode? rfl (b.decode?_document 126)
  · exact Json.readsBack_of_decode? a.isWhole_encode (AccountView.decode?_document ha 125)
  · exact Json.readsBack_of_decode? p.isWhole_encode (Page.decode?_document hp 123)
  · obtain ⟨members, links, hdocument, hlinks, hshown⟩ := p.exists_links_document
    exact ⟨members, links, hdocument ▸ Document.read?_compact p.isWhole_encode, hlinks, hshown⟩

/-- An account of the earliest moment whose texts are full of what has to be escaped. -/
def escapedAccount : AccountView where
  id := "1 \"a\\b\" \n\t\r"
  username := "\x00\x08\x0c\x1f\x7f"
  user := ⟨"", "Zoë 😀", "\u2028\ud7ff", -9223372036854775808⟩
  createdAt := 9223372036854775807

/-- The last page of as many accounts as there can be, after others. -/
def escapedPage : Page AccountView where
  links :=
    ⟨"http://localhost/", "http://localhost/accounts", none, some "http://localhost/accounts"⟩
  total := 18446744073709551615
  data := [escapedAccount, escapedAccount]

theorem written_reads_back_escapedPage :
    escapedPage.Fits ∧ Json.ReadsBack escapedPage ∧ Json.ReadsBack escapedAccount ∧
      ∃ members links, Document.read? (Json.text escapedPage) = some (.object members) ∧
        Json.uniqueMember? "links" members = some (some links) ∧
        escapedPage.links.ShownBy links := by
  have haccount : escapedAccount.Fits := ⟨by decide, by decide⟩
  have hpage : escapedPage.Fits := ⟨by decide, by simp [escapedPage, haccount]⟩
  obtain ⟨-, -, -, haccounts, hpages⟩ := written_reads_back
  exact ⟨hpage, (hpages _ hpage).1, haccounts _ haccount, (hpages _ hpage).2⟩

end UserAccounts
