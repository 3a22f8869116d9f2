/-!
# Tables of code points

Tables of character properties are written as text: groups of hexadecimal numbers, the groups
separated by commas and the numbers of a group by a hyphen. `hexGroups` reads that text, and
`CodePoints` is the set of code points whose groups are single numbers or closed ranges.
-/

namespace UserAccounts.Text

/-- The value of a hexadecimal digit of either case. -/
def hexValue? (c : Char) : Option Nat :=
  let n := c.toNat
  if 0x30 ≤ n && n ≤ 0x39 then some (n - 0x30)
  else if 0x41 ≤ n && n ≤ 0x46 then some (n - 0x41 + 10)
  else if 0x61 ≤ n && n ≤ 0x66 then some (n - 0x61 + 10)
  else none

/-- A reader of number groups: the groups read so far, the numbers of the open group, and the
number that is being read, the newest first. -/
structure GroupReader where
  groups : List (List Nat)
  numbers : List Nat
  current : Nat

namespace GroupReader

/-- Take in one character; characters that are neither digits nor separators are passed over. -/
def feed (r : GroupReader) (c : Char) : GroupReader :=
  match hexValue? c with
  | some d => { r with current := 16 * r.current + d }
  | none =>
    if c == '-' then { r with numbers := r.current :: r.numbers, current := 0 }
    else if c == ',' then
      { groups := (r.current :: r.numbers).reverse :: r.groups, numbers := [], current := 0 }
    else r

/-- The groups in the order they were written. -/
def finish (r : GroupReader) : List (List Nat) :=
  ((r.current :: r.numbers).reverse :: r.groups).reverse

end GroupReader

/-- The number groups that a table's text holds. -/
def hexGroups (table : String) : List (List Nat) :=
  (table.foldl GroupReader.feed ⟨[], [], 0⟩).finish

/-- A set of code points, given by closed ranges. -/
structure CodePoints where
  ranges : Array (Nat × Nat)

namespace CodePoints

/-- The set that a table's text describes. -/
def ofTable (table : String) : CodePoints :=
  ⟨((hexGroups table).filterMap fun
    | [n] => some (n, n)
    | [low, high] => some (low, high)
    | _ => none).toArray⟩

/-- Whether a character belongs to the set. -/
def contains (set : CodePoints) (c : Char) : Bool :=
  set.ranges.any fun (low, high) => low ≤ c.toNat && c.toNat ≤ high

end CodePoints

end UserAccounts.Text
