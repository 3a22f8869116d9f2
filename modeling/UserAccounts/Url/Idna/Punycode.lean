/-!
# Labels in ASCII

`Punycode.encode` writes a label with the letters of ASCII: first the ASCII characters that the
label has, then a hyphen, then where the other characters go. These are inserted from the lowest
code point up. Each insertion is one number, the count of the possible insertions it passes over,
written to the base 36 with the lowest digit first; how many digits of each place end a number is
adjusted to the size of the numbers before.
-/

namespace UserAccounts.Url.Punycode

/-! ## Digits -/

/-- The letters count from 0 to 25 and the decimal digits from 26 to 35. -/
def digit (d : Nat) : Char :=
  if d < 26 then Char.ofNat (0x61 + d) else Char.ofNat (0x30 + (d - 26))

/-- The value of a digit of either case. -/
def digit? (c : Char) : Option Nat :=
  let n := c.toNat
  if 0x61 ≤ n && n ≤ 0x7A then some (n - 0x61)
  else if 0x41 ≤ n && n ≤ 0x5A then some (n - 0x41)
  else if 0x30 ≤ n && n ≤ 0x39 then some (n - 0x30 + 26)
  else none

/-- A digit below this ends a number; `place` counts 36 for each digit before it. -/
def threshold (place bias : Nat) : Nat :=
  max 1 (min 26 (place - bias))

theorem threshold_pos (place bias : Nat) : 0 < threshold place bias := by
  unfold threshold; omega

theorem threshold_le (place bias : Nat) : threshold place bias ≤ 26 := by
  unfold threshold; omega

/-- The digits of a number from a place on. -/
def digits (bias place n : Nat) : List Char :=
  let t := threshold place bias
  if n < t then [digit n]
  else digit (t + (n - t) % (36 - t)) :: digits bias (place + 36) ((n - t) / (36 - t))
termination_by n
decreasing_by
  have := threshold_pos place bias
  have := threshold_le place bias
  exact Nat.lt_of_le_of_lt (Nat.div_le_self _ _) (by omega)

/-- Read a number: its digits are added to `sum`, the first of them times `weight`. What is left is
shorter. -/
def readDigits (bias : Nat) : (cs : List Char) → (place weight sum : Nat) →
    Option (Nat × { r : List Char // r.length < cs.length })
  | [], _, _, _ => none
  | c :: rest, place, weight, sum =>
    match digit? c with
    | none => none
    | some d =>
      let t := threshold place bias
      if d < t then some (sum + d * weight, ⟨rest, Nat.lt_succ_self _⟩)
      else
        (readDigits bias rest (place + 36) (weight * (36 - t)) (sum + d * weight)).map
          fun (n, r) => (n, ⟨r.1, Nat.lt_succ_of_lt r.2⟩)

/-- Divide by 35 until at most 455 is left, and add 36 to `places` each time. -/
def shrink (delta places : Nat) : Nat × Nat :=
  if 455 < delta then shrink (delta / 35) (places + 36) else (delta, places)
termination_by delta
decreasing_by exact Nat.div_lt_self (by omega) (by omega)

/-- The bias after a number, given how many characters the label then has. -/
def adapt (delta count : Nat) (isFirst : Bool) : Nat :=
  let scaled := if isFirst then delta / 700 else delta / 2
  let (delta, places) := shrink (scaled + scaled / count) 0
  places + 36 * delta / (delta + 38)

/-! ## Writing -/

/-- A label being written: the digits so far, the insertions passed over since the last number, the
bias, and how many characters are placed. -/
structure Writer where
  text : List Char
  delta : Nat
  bias : Nat
  placed : Nat

namespace Writer

/-- Pass one character of the label while those with the code point `current` are inserted;
`isFirst` tells whether no number was written before. -/
def pass (basic current : Nat) (w : Writer) (c : Nat) : Writer :=
  if c < current then { w with delta := w.delta + 1 }
  else if c == current then
    { text := w.text ++ digits w.bias 36 w.delta
      delta := 0
      bias := adapt w.delta (w.placed + 1) (w.placed == basic)
      placed := w.placed + 1 }
  else w

/-- Insert all characters with the code points `currents`, which are in ascending order. -/
def insertAll (label : List Nat) (basic : Nat) :
    (next : Nat) → (currents : List Nat) → Writer → Writer
  | _, [], w => w
  | next, current :: rest, w =>
    let w := { w with delta := w.delta + (current - next) * (w.placed + 1) }
    let w := label.foldl (pass basic current) w
    insertAll label basic (current + 1) rest { w with delta := w.delta + 1 }

end Writer

/-- Put a number into an ascending list that does not have it yet. -/
def insertSorted (n : Nat) : List Nat → List Nat
  | [] => [n]
  | m :: rest =>
    if n < m then n :: m :: rest else if n == m then m :: rest else m :: insertSorted n rest

/-- A label in ASCII. -/
def encode (label : List Nat) : List Char :=
  let basic := label.filter (· < 0x80)
  let others := (label.filter (0x80 ≤ ·)).foldr insertSorted []
  let start := basic.map Char.ofNat ++ (if basic.isEmpty then [] else ['-'])
  (Writer.insertAll label basic.length 0x80 others ⟨start, 0, 72, basic.length⟩).text

/-! ## Reading -/

/-- Insert characters into `label` while numbers follow. The next one is inserted at `sum` at the
least, counted from the first place for the code point `next`. -/
def insertNumbers (bias next sum : Nat) (label : List Nat) (cs : List Char) : Option (List Nat) :=
  match cs with
  | [] => some label
  | c :: rest =>
    match readDigits bias (c :: rest) 36 1 sum with
    | none => none
    | some (n, remaining) =>
      let count := label.length + 1
      let current := next + n / count
      if current.isValidChar then
        insertNumbers (adapt (n - sum) count (sum == 0)) current (n % count + 1)
          (label.insertIdx (n % count) current) remaining.1
      else none
termination_by cs.length
decreasing_by exact remaining.2

/-- The label that was written in ASCII; the last hyphen ends its ASCII characters. -/
def decode (cs : List Char) : Option (List Nat) :=
  let reversed := cs.reverse
  let numbers := (reversed.takeWhile (· ≠ '-')).reverse
  let basic := ((reversed.dropWhile (· ≠ '-')).drop 1).reverse
  if basic.any (0x80 ≤ ·.toNat) then none
  else insertNumbers 72 0x80 0 (basic.map Char.toNat) numbers

end UserAccounts.Url.Punycode
