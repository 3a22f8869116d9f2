import UserAccounts.Text.Numeral

/-!
# Shortest decimals of binary fractions

A finite double-precision number is written with the fewest digits that still read back as that
number, and of those with the digits nearest to it. `Binary64` holds such a number exactly,
`Binary64.shortest` finds the digits, and the two notations for them are `Decimal.scientificOrPlain`
and `Decimal.plain`.
-/

namespace UserAccounts

/-- A finite binary fraction: `mantissa · 2 ^ exponent`, with a sign. -/
structure Binary64 where
  negative : Bool
  mantissa : Nat
  exponent : Int
  deriving DecidableEq

/-- A decimal fraction without sign: `digits · 10 ^ exponent`. -/
structure Decimal where
  digits : Nat
  exponent : Int
  deriving DecidableEq

namespace Binary64

/-- The least mantissa of a number that is not subnormal: the 52 bits below it are stored. -/
def leastNormal : Nat := 0x10000000000000

/-- The number that a pattern of 64 bits stands for, unless it is infinite or not a number. -/
def ofBits? (bits : UInt64) : Option Binary64 :=
  let n : Nat := bits.toNat
  let negative : Bool := 2048 * leastNormal ≤ n
  let field : Nat := n / leastNormal % 2048
  let fraction : Nat := n % leastNormal
  if field == 2047 then none
  else if field == 0 then some ⟨negative, fraction, -1074⟩
  else some ⟨negative, leastNormal + fraction, (field : Int) - 1075⟩

/-- The quotient and the remainder-free comparison base of `4 · mantissa · 2 ^ (exponent - 2)`
against a power of ten: numerator and denominator of one quarter unit in units of `10 ^ k`. -/
def quarterUnit (x : Binary64) (k : Int) : Nat × Nat :=
  let twos := x.exponent - 2
  (Nat.pow 2 twos.toNat * Nat.pow 10 (-k).toNat, Nat.pow 2 (-twos).toNat * Nat.pow 10 k.toNat)

/-- The distance to the lower end of the numbers that round to `x`, in quarter units: the gap below
a power of two is half as wide. -/
def quartersBelow (x : Binary64) : Nat :=
  if x.mantissa == leastNormal && x.exponent != -1074 then 1 else 2

/-- The multiple of `10 ^ k` nearest to `x` among the two around it that round to `x`. -/
def onGrid? (x : Binary64) (k : Int) : Option Nat :=
  let (num, den) := x.quarterUnit k
  let value := 4 * x.mantissa * num
  let low := (4 * x.mantissa - x.quartersBelow) * num
  let high := (4 * x.mantissa + 2) * num
  let within (d : Nat) : Bool :=
    if x.mantissa % 2 == 0 then low ≤ d * den && d * den ≤ high
    else low < d * den && d * den < high
  let below := value / den
  match within below, within (below + 1) with
  | true, true =>
    if 2 * (value - below * den) < den || (2 * (value - below * den) == den && below % 2 == 0) then
      some below
    else some (below + 1)
  | true, false => some below
  | false, true => some (below + 1)
  | false, false => none

/-- Search the grids from `10 ^ k` downwards. -/
def searchGrids (x : Binary64) : Nat → Int → Decimal
  | 0, k => ⟨0, k⟩
  | steps + 1, k =>
    match x.onGrid? k with
    | some d => ⟨d, k⟩
    | none => searchGrids x steps (k - 1)

/-- A power of ten above every positive number of this magnitude. -/
def ceilingExponent (x : Binary64) : Int :=
  (x.exponent + (Nat.log2 x.mantissa : Int) + 1) * 30103 / 100000 + 1

/-- The shortest decimal that reads back as a nonzero number, without its sign. -/
def shortest (x : Binary64) : Decimal :=
  if x.mantissa == 0 then ⟨0, 0⟩ else searchGrids x 25 x.ceilingExponent

end Binary64

namespace Decimal

/-- The digits of a decimal as characters. -/
def digitChars (d : Decimal) : List Char :=
  Nat.toDigits 10 d.digits

/-- A run of zeros. -/
def zeros (n : Nat) : List Char :=
  List.replicate n '0'

/-- Digits with the point `places` digits after their beginning. -/
def pointed (digits : List Char) (places : Int) : List Char :=
  if places ≤ 0 then '0' :: '.' :: zeros (-places).toNat ++ digits
  else digits.take places.toNat ++ '.' :: digits.drop places.toNat

/-- Notation with an exponent for very large and very small numbers, and with at least one digit
after the point otherwise: positional from `10 ^ -5` up to, and without, `10 ^ 16`. -/
def scientificOrPlain (d : Decimal) : List Char :=
  let digits := d.digitChars
  let places := (digits.length : Int) + d.exponent
  if d.digits == 0 then "0.0".toList
  else if 0 ≤ d.exponent && places ≤ 16 then digits ++ zeros d.exponent.toNat ++ ".0".toList
  else if -5 < places && places ≤ 16 then pointed digits places
  else
    let exponent := 'e' :: (Text.integer (places - 1)).toList
    match digits with
    | [single] => single :: exponent
    | first :: rest => first :: '.' :: rest ++ exponent
    | [] => exponent

/-- Notation without exponent, whole numbers without a point. -/
def plain (d : Decimal) : List Char :=
  let digits := d.digitChars
  if 0 ≤ d.exponent then digits ++ zeros d.exponent.toNat
  else pointed digits ((digits.length : Int) + d.exponent)

end Decimal

namespace Binary64

/-- The sign of a number followed by a notation of its magnitude. -/
def render (style : Decimal → List Char) (x : Binary64) : String :=
  String.ofList ((if x.negative then ['-'] else []) ++ style x.shortest)

end Binary64

end UserAccounts
