import UserAccounts.Json.Basic

/-!
# Page windows

The part of a listing that is asked for: how many elements at most, and how many to skip before
them. A `Window` is always sensible: its limit lies between 1 and 100, and its offset is an unsigned
number of 64 bits.
-/

namespace UserAccounts

open Text (Inspect inspect)

/-- The part of a listing that one page shows. -/
structure Window where
  limit : Nat
  offset : Nat
  limit_pos : 1 ≤ limit
  limit_le : limit ≤ 100
  offset_lt : offset < UInt64.size
  deriving DecidableEq

namespace Window

/-- The limit of a page where none is asked for. -/
def defaultLimit : Nat := 20

/-- The largest limit. -/
def maxLimit : Nat := 100

/-- The limit that a request gets: 0 asks for the default, and too much gets the largest. -/
def effectiveLimit (requested : Nat) : Nat :=
  if requested = 0 then defaultLimit else min requested maxLimit

theorem effectiveLimit_pos (requested : Nat) : 1 ≤ effectiveLimit requested := by
  unfold effectiveLimit defaultLimit maxLimit
  split <;> omega

theorem effectiveLimit_le (requested : Nat) : effectiveLimit requested ≤ 100 := by
  unfold effectiveLimit defaultLimit maxLimit
  split <;> omega

/-- The window for a requested limit and offset. -/
def ofNumbers (limit offset : UInt64) : Window where
  limit := effectiveLimit limit.toNat
  offset := offset.toNat
  limit_pos := effectiveLimit_pos _
  limit_le := effectiveLimit_le _
  offset_lt := offset.toNat_lt

/-- The window for what a request says; what it leaves out counts as 0. -/
def ofRequest (limit start : Option UInt64) : Window :=
  ofNumbers (limit.getD 0) (start.getD 0)

/-- The first page at the default size. -/
def default : Window := ofNumbers 0 0

instance : Inhabited Window := ⟨default⟩

/-- The offset of the page after this one, at most the largest unsigned number of 64 bits. -/
def nextOffset (w : Window) : Nat :=
  min (w.offset + w.limit) Text.maxUnsigned64

/-- The offset of the page before this one, at least 0. -/
def previousOffset (w : Window) : Nat :=
  w.offset - w.limit

instance : Inspect Window where
  inspect w :=
    Inspect.record "FindOptions" [("limit", inspect w.limit), ("offset", inspect w.offset)]

instance : Json.Encode Window where
  encode w := .object [("limit", .natural w.limit), ("offset", .natural w.offset)]

end Window

end UserAccounts
