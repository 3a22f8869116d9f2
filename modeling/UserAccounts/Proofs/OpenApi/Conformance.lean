import Mathlib
import UserAccounts.OpenApi.Accounts
import UserAccounts.Proofs.Http.Written
import UserAccounts.Proofs.Json.Fractions

/-!
# Bodies conform to their schemas

Whether a JSON document is a value of a shape is computed by `Shape.admits`, which follows the
document and looks up the schemas that the shape refers to. An object conforms to a record if its
keys are distinct, the required ones are among them, and every member is declared and has a value of
the declared shape (`conforms_object_iff`).

Accounts, pages and failures conform to their schemas: `conforms_account`, `conforms_page`, and
`conforms_failure`, where the details may be any value at all, fractions included.
-/

namespace UserAccounts.OpenApi

open Json (Numeral Spelling)

/-! ## Values of a schema -/

/-- The properties of the objects that a schema describes, if it describes objects. -/
def Schema.properties? : Schema → Option (List Property)
  | .record _ _ properties => some properties
  | .choice _ _ => none

/-- The texts that a schema offers a choice of, if it does so. -/
def Schema.names? : Schema → Option (List String)
  | .record _ _ _ => none
  | .choice _ names => some names

/-- A numeral is an integer of 64 bits that is not below the bound, if there is one. -/
def admitsInteger (minimum : Option Int) (n : Numeral) : Bool :=
  (Json.integerWithin? Int64.minValue.toInt Int64.maxValue.toInt (.number n)).any fun value =>
    minimum.all (· ≤ value)

/-- The keys of an object are texts, none of them occurs twice, and the required ones are among
them. -/
def admitsKeys (properties : List Property) (keys : List Spelling) : Bool :=
  keys.all (·.intact) && (keys.map (·.text)).Nodup &&
    properties.all fun p => !p.required || (keys.map (·.text)).contains p.name

mutual

/-- A document is a value of a shape. An object has all properties that it needs, and none that are
not declared even if the record that it is a value of is open. -/
def Shape.admits (schemas : List (String × Schema)) : Json.Document → Shape → Bool
  | _, .anything => true
  | .string s, .text => s.intact
  | .string s, .textOrNull => s.intact
  | .null, .textOrNull => true
  | .number n, .integer minimum => admitsInteger minimum n
  | .array items, .listOf name => itemsAdmitted schemas items name
  | .string s, .reference name =>
    s.intact && (((schemas.lookup name).bind Schema.names?).any (·.contains s.text))
  | .object members, .reference name =>
    ((schemas.lookup name).bind Schema.properties?).any fun properties =>
      admitsKeys properties (members.map (·.1)) && membersAdmitted schemas members properties
  | _, _ => false

/-- The elements of an array are values of a named schema. -/
def itemsAdmitted (schemas : List (String × Schema)) : List Json.Document → String → Bool
  | [], _ => true
  | d :: rest, name =>
    Shape.admits schemas d (.reference name) && itemsAdmitted schemas rest name

/-- The members of an object are values of the properties that are declared under their keys. -/
def membersAdmitted (schemas : List (String × Schema)) :
    List (Spelling × Json.Document) → List Property → Bool
  | [], _ => true
  | (key, d) :: rest, properties =>
    ((properties.find? (·.name == key.text)).any fun p => Shape.admits schemas d p.shape) &&
      membersAdmitted schemas rest properties

end

@[simp] theorem admits_anything {schemas : List (String × Schema)} (d : Json.Document) :
    Shape.anything.admits schemas d = true := by
  cases d <;> rfl

/-- A document is a value of a named schema of the API. -/
def Conforms (schema : String) (d : Json.Document) : Prop :=
  (Shape.reference schema).admits schemas d = true

instance (schema : String) (d : Json.Document) : Decidable (Conforms schema d) :=
  inferInstanceAs (Decidable (_ = true))

/-- A member of an object is declared, and its value is of the shape that is declared for it. -/
def Declared (properties : List Property) (m : Spelling × Json.Document) : Prop :=
  ∃ p, properties.find? (·.name == m.1.text) = some p ∧ p.shape.admits schemas m.2 = true

section Containers

variable {name : String} {properties : List Property} {p : Property} {key : Spelling}
  {d : Json.Document} {members : List (Spelling × Json.Document)} {items : List Json.Document}

theorem membersAdmitted_iff :
    membersAdmitted schemas members properties = true ↔ ∀ m ∈ members, Declared properties m := by
  induction members with
  | nil => simp [membersAdmitted]
  | cons m rest ih =>
    obtain ⟨key, d⟩ := m
    rw [membersAdmitted, Bool.and_eq_true, ih, List.forall_mem_cons, Option.any_eq_true]
    rfl

/-- An object conforms to a record if its keys are distinct, the required ones are among them, and
each member is as it is declared. -/
theorem conforms_object_iff
    (hname : (schemas.lookup name).bind Schema.properties? = some properties) :
    Conforms name (.object members) ↔
      admitsKeys properties (members.map (·.1)) = true ∧ ∀ m ∈ members, Declared properties m := by
  unfold Conforms
  rw [Shape.admits, hname, Option.any_some, Bool.and_eq_true, membersAdmitted_iff]

/-- Links without the collection do not conform. -/
example : ¬ Conforms linksSchema (.object [(.whole "base", .string (.whole "/"))]) := by
  decide +kernel

theorem declared_cons (hp : properties.find? (·.name == key.text) = some p)
    (hd : p.shape.admits schemas d = true) (hrest : ∀ m ∈ members, Declared properties m) :
    ∀ m ∈ (key, d) :: members, Declared properties m :=
  List.forall_mem_cons.mpr ⟨⟨p, hp, hd⟩, hrest⟩

/-- An array is admitted as a list of a schema if its elements conform to that. -/
theorem itemsAdmitted_iff :
    itemsAdmitted schemas items name = true ↔ ∀ d ∈ items, Conforms name d := by
  induction items with
  | nil => simp [itemsAdmitted]
  | cons d rest ih => rw [itemsAdmitted, Bool.and_eq_true, ih, List.forall_mem_cons, Conforms]

end Containers

theorem admitsInteger_ofInt {minimum : Option Int} {n : Int} (hn : IsSigned64 n)
    (hminimum : minimum.all (· ≤ n) = true) : admitsInteger minimum (.ofInt n) = true := by
  have hvalue : Json.integerWithin? Int64.minValue.toInt Int64.maxValue.toInt
      (.number (.ofInt n)) = some n :=
    Json.integerWithin?_ofInt (by decide) (by decide) hn
  rw [admitsInteger, hvalue, Option.any_some]
  exact hminimum

/-! ## Accounts -/

theorem conforms_user {u : UserView} (hu : u.Fits) :
    Conforms userSchema (Json.encode u).document := by
  have hcreated : admitsInteger none (.ofInt u.createdAt) = true := admitsInteger_ofInt hu rfl
  refine (conforms_object_iff rfl).mpr ⟨rfl, ?_⟩
  exact declared_cons rfl rfl <| declared_cons rfl rfl <| declared_cons rfl rfl <|
    declared_cons rfl hcreated nofun

theorem conforms_account {a : AccountView} (ha : a.Fits) :
    Conforms accountSchema (Json.encode a).document := by
  have huser : Conforms userSchema (Json.encode a.user).document := conforms_user ha.user
  have hcreated : admitsInteger none (.ofInt a.createdAt) = true :=
    admitsInteger_ofInt ha.account rfl
  refine (conforms_object_iff rfl).mpr ⟨rfl, ?_⟩
  exact declared_cons rfl rfl <| declared_cons rfl rfl <| declared_cons rfl huser <|
    declared_cons rfl hcreated nofun

/-! ## Pages -/

/-- Links conform with and without the neighbours of the page. -/
theorem conforms_links (l : PageLinks) : Conforms linksSchema (Json.encode l).document := by
  obtain ⟨base, collection, next, previous⟩ := l
  refine (conforms_object_iff rfl).mpr ⟨?_, ?_⟩
  · cases next <;> cases previous <;> rfl
  · cases next with
    | none =>
      cases previous with
      | none => exact declared_cons rfl rfl <| declared_cons rfl rfl nofun
      | some url => exact declared_cons rfl rfl <| declared_cons rfl rfl <|
          declared_cons rfl rfl nofun
    | some url =>
      cases previous with
      | none => exact declared_cons rfl rfl <| declared_cons rfl rfl <|
          declared_cons rfl rfl nofun
      | some url' => exact declared_cons rfl rfl <| declared_cons rfl rfl <|
          declared_cons rfl rfl <| declared_cons rfl rfl nofun

theorem conforms_page {page : Page AccountView} (htotal : page.total ≤ Text.maxSigned64)
    (hdata : ∀ a ∈ page.data, a.Fits) : Conforms pageSchema (Json.encode page).document := by
  have hlinks : Conforms linksSchema (Json.encode page.links).document :=
    conforms_links page.links
  have htotal' : admitsInteger (some 0) (.ofInt page.total) = true := by
    refine admitsInteger_ofInt ⟨?_, ?_⟩ (by simp)
    · exact (by decide : Int64.minValue.toInt ≤ 0).trans (Int.natCast_nonneg _)
    · exact Int.ofNat_le.mpr htotal
  have hitems : itemsAdmitted schemas (Json.itemDocuments (page.data.map Json.encode))
      accountSchema = true := by
    rw [itemsAdmitted_iff, Json.itemDocuments_eq_map, List.map_map]
    intro d hd
    obtain ⟨a, ha, rfl⟩ := List.mem_map.mp hd
    exact conforms_account (hdata a ha)
  refine (conforms_object_iff rfl).mpr ⟨rfl, ?_⟩
  exact declared_cons rfl hlinks <| declared_cons rfl htotal' <| declared_cons rfl hitems nofun

/-! ## Failures -/

theorem conforms_code (code : FailureCode) :
    Conforms failureCodeSchema (.string (.whole code.name)) := by
  cases code <;> rfl

/-- A failure conforms with and without details, whatever its details are. -/
theorem conforms_failure (f : Failure) :
    ∃ d, Json.Document.read? (Json.text f) = some d ∧ Conforms failureSchema d := by
  obtain ⟨code, message, details, notBlank⟩ := f
  have hcode : Conforms failureCodeSchema (.string (.whole code.name)) := conforms_code code
  have hneeded : List.Forall₂ Json.MemberReadAs
      [("code", .string code.name), ("message", .string message)]
      [(.whole "code", .string (.whole code.name)),
        (.whole "message", .string (.whole message))] :=
    .cons ⟨rfl, Json.Value.readAs_string _⟩ <| .cons ⟨rfl, Json.Value.readAs_string _⟩ .nil
  cases details with
  | none =>
    refine ⟨_, (Json.Value.readAs_object hneeded).read?, (conforms_object_iff rfl).mpr ⟨rfl, ?_⟩⟩
    exact declared_cons rfl hcode <| declared_cons rfl rfl nofun
  | some v =>
    obtain ⟨d, hd⟩ := v.exists_readAs
    have hmembers := List.rel_append hneeded
      (.cons (⟨rfl, hd⟩ : Json.MemberReadAs ("details", v) (.whole "details", d)) .nil)
    refine ⟨_, (Json.Value.readAs_object hmembers).read?, (conforms_object_iff rfl).mpr ⟨rfl, ?_⟩⟩
    exact declared_cons rfl hcode <| declared_cons rfl rfl <|
      declared_cons rfl (admits_anything d) nofun

end UserAccounts.OpenApi
