import UserAccounts.Store.Error

/-!
# Values and rows

What is bound to a statement and what comes back from one. `Row.integer`, `Row.textAt` and
`Row.boolean` read one column of a given type and say which column disappointed them.
-/

namespace UserAccounts

open Text (Inspect inspect)

/-- A value of the store. -/
inductive SqlValue where
  | null
  | bool (b : Bool)
  | int (n : Int64)
  | text (s : String)
  deriving DecidableEq

namespace SqlValue

/-- The value as messages show it. -/
def display : SqlValue → String
  | .null => "NULL"
  | .bool b => inspect b
  | .int n => Text.integer n.toInt
  | .text s => inspect s

instance : Inspect SqlValue where
  inspect
    | .null => "Null"
    | .bool b => Inspect.wrapped "Bool" (inspect b)
    | .int n => Inspect.wrapped "Int" (Text.integer n.toInt)
    | .text s => Inspect.wrapped "Text" (inspect s)

end SqlValue

/-- A row of a result, column by column. -/
structure Row where
  columns : List SqlValue
  deriving DecidableEq

namespace Row

/-- The value of a column, counted from 0. -/
def column (row : Row) (index : Nat) : Except StoreError SqlValue :=
  match row.columns[index]? with
  | some value => .ok value
  | none => .error (.decode s!"column {index} is out of range")

/-- The failure of a column that holds something else than expected. -/
def mismatch (index : Nat) (expected : String) (found : SqlValue) : StoreError :=
  .decode s!"column {index} expected {expected}, found {found.display}"

/-- The integer in a column. -/
def integer (row : Row) (index : Nat) : Except StoreError Int64 :=
  match row.column index with
  | .ok (.int n) => .ok n
  | .ok other => .error (mismatch index "integer" other)
  | .error e => .error e

/-- The text in a column. -/
def textAt (row : Row) (index : Nat) : Except StoreError String :=
  match row.column index with
  | .ok (.text s) => .ok s
  | .ok other => .error (mismatch index "text" other)
  | .error e => .error e

/-- The truth value in a column. -/
def boolean (row : Row) (index : Nat) : Except StoreError Bool :=
  match row.column index with
  | .ok (.bool b) => .ok b
  | .ok other => .error (mismatch index "boolean" other)
  | .error e => .error e

end Row

end UserAccounts
