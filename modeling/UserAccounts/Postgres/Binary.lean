import UserAccounts.Store.Row
import UserAccounts.Text.Utf8

/-!
# The binary form of values

Values travel to and from the server as bytes. `SqlValue.bytes?` is the form of an argument, and
`decodeCell` reads a cell of a result as the type of its column says. Of the types of the server
only some are understood; a cell that is null is null whatever its type.

`decodeRow` reads all columns of a row, and `decodeRows` all rows. Both stop at the first cell that
cannot be read, and then there is no partial result.
-/

namespace UserAccounts.Postgres

/-- A cell of a result: its bytes, unless it is null. -/
abbrev Cell := Option (List UInt8)

/-- A column of a result. -/
structure Column where
  name : String
  type : String
  deriving DecidableEq

/-- The last bytes of an integer, the most significant first; negative numbers as two's
complements. -/
def integerBytes (n : Int) : Nat → List UInt8
  | 0 => []
  | size + 1 => integerBytes (n / 256) size ++ [UInt8.ofNat (n % 256).toNat]

/-- The bytes of an argument; null has none. -/
def argumentBytes? : SqlValue → Cell
  | .null => none
  | .bool b => some [if b then 1 else 0]
  | .int n => some (integerBytes n.toInt 8)
  | .text s => some (Text.Utf8.encode s)

/-- The number that bytes spell, the most significant first. -/
def naturalOfBytes (bytes : List UInt8) : Nat :=
  bytes.foldl (fun value b => 256 * value + b.toNat) 0

/-- The integer that bytes spell as a two's complement. -/
def integerOfBytes (bytes : List UInt8) : Int :=
  let n := naturalOfBytes bytes
  let size := Nat.pow 256 bytes.length
  if 2 * n < size then n else (n : Int) - size

/-- Whether bytes spell a true value. -/
def truthOfBytes (bytes : List UInt8) : Bool :=
  match bytes with
  | b :: _ => b != 0
  | [] => false

/-! ## Reading -/

/-- Why the bytes of a cell are no value of its type. -/
inductive CellError where
  | emptyInteger
  | longInteger (size : Nat)
  | tooSmall
  | tooLarge
  | text (cause : Text.Utf8.DecodeError)
  deriving DecidableEq

/-- The wording of a cell that cannot be read. -/
def CellError.message : CellError → String
  | .emptyInteger => "Value Buffer found empty while decoding to integer type"
  | .longInteger size =>
    "Value Buffer exceeds 8 bytes while decoding to integer type. Buffer size = " ++
      Text.natural size ++ " bytes "
  | .tooSmall => "number too small to fit in target type"
  | .tooLarge => "number too large to fit in target type"
  | .text cause => cause.message

/-- The types of columns that are understood. -/
inductive ValueType where
  /-- A signed integer of some number of bits. -/
  | integer (bits : Nat)
  | truth
  | text
  deriving DecidableEq

/-- The type of a name. -/
def ValueType.ofName? (name : String) : Option ValueType :=
  match name with
  | "INT8" => some (.integer 64)
  | "INT4" => some (.integer 32)
  | "INT2" => some (.integer 16)
  | "BOOL" => some .truth
  | "TEXT" | "VARCHAR" | "NAME" | "BPCHAR" => some .text
  | _ => none

/-- An integer of some number of bits from its bytes. -/
def decodeInteger (bits : Nat) (bytes : List UInt8) : Except CellError Int64 :=
  if bytes.isEmpty then .error .emptyInteger
  else if 8 < bytes.length then .error (.longInteger bytes.length)
  else
    let n := integerOfBytes bytes
    let bound : Int := Nat.pow 2 (bits - 1)
    if n < -bound then .error .tooSmall
    else if bound ≤ n then .error .tooLarge
    else .ok (Int64.ofInt n)

/-- The value of some type that bytes spell. -/
def decodeBytes (type : ValueType) (bytes : List UInt8) : Except CellError SqlValue :=
  match type with
  | .integer bits => (decodeInteger bits bytes).map .int
  | .truth => .ok (.bool (truthOfBytes bytes))
  | .text =>
    match Text.Utf8.decode bytes with
    | .ok s => .ok (.text s)
    | .error cause => .error (.text cause)

/-- The failure of a cell whose bytes are no value of its type. -/
def undecodable (index : Nat) (cause : CellError) : StoreError :=
  .decode ("error occurred while decoding column " ++ Text.natural index ++ ": " ++ cause.message)

/-- The failure of a cell of a type that is not understood. -/
def unsupported (index : Nat) (type : String) : StoreError :=
  .decode ("column " ++ Text.natural index ++ " has unsupported type " ++ type)

/-- The value in a cell of the column at some index. -/
def decodeCell (index : Nat) (column : Column) : Cell → Except StoreError SqlValue
  | none => .ok .null
  | some bytes =>
    match ValueType.ofName? column.type with
    | none => .error (unsupported index column.type)
    | some type =>
      match decodeBytes type bytes with
      | .ok value => .ok value
      | .error cause => .error (undecodable index cause)

/-- The values of a row from some index on. A cell that was not sent is null. -/
def decodeFrom (index : Nat) : List Column → List Cell → Except StoreError (List SqlValue)
  | [], _ => .ok []
  | column :: columns, cells => do
    let value ← decodeCell index column (cells.head?.getD none)
    let rest ← decodeFrom (index + 1) columns cells.tail
    .ok (value :: rest)

/-- A row of a result. -/
def decodeRow (columns : List Column) (cells : List Cell) : Except StoreError Row :=
  (decodeFrom 0 columns cells).map Row.mk

/-- The rows of a result, in order. -/
def decodeRows (columns : List Column) : List (List Cell) → Except StoreError (List Row)
  | [] => .ok []
  | cells :: rest => do
    let row ← decodeRow columns cells
    let rows ← decodeRows columns rest
    .ok (row :: rows)

end UserAccounts.Postgres
