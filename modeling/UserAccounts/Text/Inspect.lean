import UserAccounts.Text.Numeral
import UserAccounts.Text.Quoted

/-!
# Text for developers

Events and diagnostics show values with their structure: records with their fields by name, text in
quotes, absent values as `None`. `Inspect` gives a type that form.
-/

namespace UserAccounts.Text

/-- Types whose values have a form that shows their structure. -/
class Inspect (α : Type) where
  inspect : α → String

export Inspect (inspect)

namespace Inspect

/-- Texts one after the other, a comma and a blank between them. -/
def commaSeparated (items : List String) : String :=
  ", ".intercalate items

/-- A record by its name and its fields. -/
def record (name : String) (fields : List (String × String)) : String :=
  let shown := fields.map fun (field, value) => field ++ ": " ++ value
  name ++ " \x7b " ++ commaSeparated shown ++ " \x7d"

/-- A value wrapped under a name. -/
def wrapped (name shown : String) : String :=
  name ++ "(" ++ shown ++ ")"

/-- A sequence in brackets. -/
def sequence (items : List String) : String :=
  "[" ++ commaSeparated items ++ "]"

instance : Inspect Bool where
  inspect b := if b then "true" else "false"

instance : Inspect Nat where
  inspect := natural

instance : Inspect Int where
  inspect := integer

instance : Inspect String where
  inspect := quoted

instance {α : Type} [Inspect α] : Inspect (Option α) where
  inspect
    | none => "None"
    | some a => wrapped "Some" (inspect a)

instance {α : Type} [Inspect α] : Inspect (List α) where
  inspect items := sequence (items.map inspect)

end Inspect

end UserAccounts.Text
