import UserAccounts.Json.Document

/-!
# The value of a JSON numeral

A numeral without fraction and exponent is a whole number if 64 bits hold it, with or without sign;
`-0` and every other numeral is a double-precision number. Its digits are taken as a significand of
at most 64 bits, further digits being dropped, and the significand is then multiplied or divided by
a power of ten. A numeral whose value is out of range has no value.
-/

namespace UserAccounts.Json

/-- The digits taken so far into a significand of 64 bits: its value, whether it is full, and the
power of ten that it is to be multiplied by. -/
structure Significand where
  value : Nat
  full : Bool
  exponent : Int

namespace Significand

/-- Take in a digit before the point; once the significand is full a digit only adds a power of
ten. -/
def pushWhole (s : Significand) (c : Char) : Significand :=
  let next := 10 * s.value + (c.toNat - '0'.toNat)
  if s.full || Text.maxUnsigned64 < next then { s with full := true, exponent := s.exponent + 1 }
  else { s with value := next }

/-- Take in a digit after the point; once the significand is full a digit is dropped. -/
def pushFraction (s : Significand) (c : Char) : Significand :=
  let next := 10 * s.value + (c.toNat - '0'.toNat)
  if s.full || Text.maxUnsigned64 < next then { s with full := true }
  else { s with value := next, exponent := s.exponent - 1 }

end Significand

/-- A power of ten of at most 308 as a double-precision number. -/
def powerOfTen (n : Nat) : Float :=
  Float.ofScientific 1 false n

/-- A number times a power of ten, dividing repeatedly by `10 ^ 308` where the exponent is too small
for one division; nothing if the product is out of range. -/
def scaled? : Nat → Float → Int → Option Float
  | 0, _, _ => none
  | steps + 1, f, exponent =>
    if exponent.natAbs ≤ 308 then
      if 0 ≤ exponent then
        let product := f * powerOfTen exponent.toNat
        if product.isInf then none else some product
      else some (f / powerOfTen exponent.natAbs)
    else if f == 0.0 then some f
    else if 0 ≤ exponent then none
    else scaled? steps (f / powerOfTen 308) (exponent + 308)

/-- A double-precision number with a sign. -/
def signedFloat (negative : Bool) (f : Float) : Number :=
  .float (if negative then -f else f).toBits

/-- The largest exponent that is read out before the number counts as out of range. -/
def maxExponent : Nat := 0x7FFFFFFF

/-- The value of digits, or nothing above `maxExponent`. -/
def exponentValue? (digits : List Char) : Option Nat :=
  (Text.readDigits maxExponent 0 digits).toOption

namespace Numeral

/-- The significand with its power of ten, before the exponent is taken into account. -/
def significand (n : Numeral) : Significand :=
  n.fraction.foldl Significand.pushFraction (n.whole.foldl Significand.pushWhole ⟨0, false, 0⟩)

/-- The value as a double-precision number. -/
def float? (n : Numeral) : Option Number :=
  let s := n.significand
  let base := s.value.toUInt64.toFloat
  match n.exponent with
  | none => (scaled? 6 base s.exponent).map (signedFloat n.negative)
  | some (down, digits) =>
    match exponentValue? digits with
    | some e =>
      let exponent := if down then s.exponent - e else s.exponent + e
      (scaled? 6 base exponent).map (signedFloat n.negative)
    | none => if s.value == 0 || down then some (signedFloat n.negative 0.0) else none

/-- The digits of a numeral that is written as an integer. -/
def integerDigits? (n : Numeral) : Option Nat :=
  if n.fraction.isEmpty && n.exponent.isNone then
    some (n.whole.foldl (fun value c => 10 * value + (c.toNat - '0'.toNat)) 0)
  else none

/-- The value of a numeral that is written as an integer, if 64 bits hold it. -/
def whole? (n : Numeral) : Option Int :=
  match n.integerDigits? with
  | none => none
  | some value =>
    if n.negative then
      if 0 < value && value ≤ Text.maxSigned64 + 1 then some (-(value : Int)) else none
    else if value ≤ Text.maxUnsigned64 then some value else none

/-- The value of a numeral. -/
def number? (n : Numeral) : Option Number :=
  match n.whole? with
  | some value => some (.whole value)
  | none => n.float?

end Numeral

end UserAccounts.Json
