import UserAccounts.Json.Basic
import UserAccounts.Text.Utf8

/-!
# Requests and responses

An HTTP request as it arrives, with its target and header values uninterpreted, and a response as it
leaves.
-/

namespace UserAccounts

namespace Http

/-- A header of a request. Its value is any sequence of bytes. -/
structure Header where
  name : String
  value : List UInt8
  deriving DecidableEq

/-- Whether a byte is shown as text in a header: a visible character, a blank or a tab. -/
def isHeaderTextByte (b : UInt8) : Bool :=
  (0x20 ≤ b.toNat && b.toNat < 0x7F) || b.toNat == 9

/-- The value of a header as text, if it holds nothing else. -/
def Header.text? (h : Header) : Option String :=
  if h.value.all isHeaderTextByte then
    some (String.ofList (h.value.map fun b => Char.ofNat b.toNat))
  else none

/-- A request. -/
structure Request where
  method : String
  target : String
  headers : List Header
  body : List UInt8

namespace Request

/-- The first header of a name, whose letters may be of either case. -/
def header? (r : Request) (name : String) : Option Header :=
  r.headers.find? fun h => h.name.toLower == name

end Request

/-- A response. -/
structure Response where
  status : Nat
  headers : List (String × String)
  body : String
  deriving DecidableEq

namespace Response

/-- A response without body. -/
def empty (status : Nat) : Response := ⟨status, [], ""⟩

/-- A response with a JSON body. -/
def json {α : Type} [Json.Encode α] (status : Nat) (a : α) : Response :=
  ⟨status, [("content-type", "application/json")], Json.text a⟩

/-- A response with a body of plain text. -/
def plain (status : Nat) (body : String) : Response :=
  ⟨status, [("content-type", "text/plain; charset=utf-8")], body⟩

/-- The response with a header in place of any of the same name. -/
def withHeader (r : Response) (name value : String) : Response :=
  { r with headers := r.headers.filter (·.1 != name) ++ [(name, value)] }

/-- The value of a header. -/
def header? (r : Response) (name : String) : Option String :=
  r.headers.lookup name

end Response

/-- Whether a text may stand in a header: it holds no controls except tabs. -/
def isHeaderValue (s : String) : Bool :=
  s.toList.all fun c => (0x20 ≤ c.toNat && c.toNat != 0x7F) || c.toNat == 9

end Http

end UserAccounts
