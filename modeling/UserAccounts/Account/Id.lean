import UserAccounts.Json.Decoder

/-!
# Identifiers of entities

An identifier is opaque text. The empty one marks an entity that has not been given an identifier
yet.
-/

namespace UserAccounts

open Text (Inspect inspect)

/-- The identifier of an entity. -/
structure Id where
  text : String
  deriving DecidableEq

namespace Id

/-- The identifier of an entity that has none yet. -/
def unassigned : Id := ⟨""⟩

instance : Inhabited Id := ⟨unassigned⟩

/-- Whether no identifier has been given. -/
def isUnassigned (id : Id) : Bool :=
  id.text.isEmpty

/-- The length in bytes. -/
def size (id : Id) : Nat :=
  id.text.utf8ByteSize

/-- The order of identifiers is that of their code points, which is also that of their bytes. -/
def order (a b : Id) : Ordering :=
  if a.text < b.text then .lt else if a.text = b.text then .eq else .gt

instance : Inspect Id where
  inspect id := Inspect.wrapped "Id" (inspect id.text)

instance : Json.Encode Id where
  encode id := .string id.text

instance : Json.Decode Id where
  decode? depth d := (Json.decode? depth d).map Id.mk

end Id

end UserAccounts
