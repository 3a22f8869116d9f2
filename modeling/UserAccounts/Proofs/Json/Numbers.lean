import Mathlib
import UserAccounts.Proofs.Decimal.Doubles
import UserAccounts.Proofs.Decimal.Magnitude
import UserAccounts.Proofs.Json.Fractions
import UserAccounts.Proofs.Json.Values

/-!
# Numbers that are read again

What is written for a number of double precision is read as a number, though perhaps as another one
(`Binary64.isSome_number?_of_ofBits?`). A numeral is out of range if the product of its significand
and a power of ten, both of them rounded, is infinite.

* `Numeral.holds_significand` — the significand stands for no more than the digits do;
* `Numeral.isSome_number?` — so a numeral is in range if its value is small enough for all roundings
  to go upwards;
* `Decimal.writtenAs_numeral` — the value of what is written is that of the decimal, which is small
  enough unless the number is one of the six largest (`Binary64.value_shortest_le_assured`);
* `Binary64.isSome_number?_largest` — these six are read one by one.
-/

namespace UserAccounts

namespace Json

/-! ## Digits that are taken into a significand -/

namespace Significand

/-- The significand has taken in digits that make a number, with `-shift` of them after the point.
It may have lost some of them, but is never too large. -/
structure Holds (s : Significand) (n : ℕ) (shift : ℤ) : Prop where
  exact : s.full = false → s.value = n ∧ s.exponent = shift
  value_le : s.value ≤ Text.maxUnsigned64
  shift_le : shift ≤ s.exponent
  le : (s.value : ℚ) * 10 ^ s.exponent ≤ n * 10 ^ shift

variable {s : Significand} {n : ℕ} {shift : ℤ}

theorem mul_ten_zpow (q : ℚ) (k : ℤ) : q * 10 ^ (k + 1) = 10 * q * 10 ^ k := by
  rw [zpow_add_one₀ (by norm_num : (10 : ℚ) ≠ 0)]
  ring

/-- A significand that is not full is one that has lost nothing. -/
theorem holds_of_eq (hn : n ≤ Text.maxUnsigned64) : (Significand.mk n false shift).Holds n shift :=
  ⟨fun _ => ⟨rfl, rfl⟩, hn, le_rfl, le_rfl⟩

/-- A further digit makes the number at least ten times as large. -/
theorem Holds.le_digit (h : s.Holds n shift) (c : Char) :
    10 * s.value * (10 : ℚ) ^ s.exponent ≤ (10 * n + (c.toNat - '0'.toNat) : ℕ) * 10 ^ shift := by
  have hdigit : (10 * n : ℚ) ≤ (10 * n + (c.toNat - '0'.toNat) : ℕ) := by
    exact_mod_cast Nat.le_add_right _ _
  calc 10 * s.value * (10 : ℚ) ^ s.exponent = 10 * (s.value * 10 ^ s.exponent) := by ring
    _ ≤ 10 * (n * 10 ^ shift) := mul_le_mul_of_nonneg_left h.le (by norm_num)
    _ = 10 * n * 10 ^ shift := by ring
    _ ≤ _ := mul_le_mul_of_nonneg_right hdigit (by positivity)

/-- A significand that has room for a further digit has lost nothing. -/
theorem Holds.of_room (h : s.Holds n shift) {c : Char}
    (hroom : ¬ (s.full || Text.maxUnsigned64 < 10 * s.value + (c.toNat - '0'.toNat)) = true) :
    s.full = false ∧ s.value = n ∧ s.exponent = shift ∧
      10 * n + (c.toNat - '0'.toNat) ≤ Text.maxUnsigned64 := by
  obtain ⟨hfull, hfits⟩ : s.full = false ∧
      10 * s.value + (c.toNat - '0'.toNat) ≤ Text.maxUnsigned64 := by simpa using hroom
  obtain ⟨hvalue, hexponent⟩ := h.exact hfull
  exact ⟨hfull, hvalue, hexponent, hvalue ▸ hfits⟩

theorem Holds.pushWhole (h : s.Holds n shift) (c : Char) :
    (s.pushWhole c).Holds (10 * n + (c.toNat - '0'.toNat)) shift := by
  unfold Significand.pushWhole
  dsimp only
  split_ifs with hfull
  · refine ⟨nofun, h.value_le, h.shift_le.trans (by simp), ?_⟩
    rw [mul_ten_zpow]
    exact h.le_digit c
  · obtain ⟨hroom, hvalue, hexponent, hfits⟩ := h.of_room hfull
    rw [hvalue, hexponent, hroom]
    exact holds_of_eq hfits

theorem Holds.pushFraction (h : s.Holds n shift) (c : Char) :
    (s.pushFraction c).Holds (10 * n + (c.toNat - '0'.toNat)) (shift - 1) := by
  unfold Significand.pushFraction
  dsimp only
  split_ifs with hfull
  · refine ⟨nofun, h.value_le, (Int.sub_le_self _ (by decide)).trans h.shift_le, ?_⟩
    have hle := h.le_digit c
    rw [← sub_add_cancel shift 1, mul_ten_zpow, mul_assoc, mul_assoc] at hle
    exact le_of_mul_le_mul_left hle (by norm_num)
  · obtain ⟨hroom, hvalue, hexponent, hfits⟩ := h.of_room hfull
    rw [hvalue, hexponent, hroom]
    exact holds_of_eq hfits

theorem Holds.foldl_pushWhole (h : s.Holds n shift) (digits : List Char) :
    (digits.foldl Significand.pushWhole s).Holds (Nat.ofDigitChars 10 digits n) shift := by
  induction digits generalizing s n with
  | nil => exact h
  | cons c rest ih =>
    rw [Nat.ofDigitChars_cons]
    exact ih (h.pushWhole c)

theorem Holds.foldl_pushFraction (h : s.Holds n shift) (digits : List Char) :
    (digits.foldl Significand.pushFraction s).Holds (Nat.ofDigitChars 10 digits n)
      (shift - digits.length) := by
  induction digits generalizing s n shift with
  | nil => simpa using h
  | cons c rest ih =>
    have hlength : shift - (c :: rest).length = shift - 1 - rest.length := by
      rw [List.length_cons]
      omega
    rw [Nat.ofDigitChars_cons, hlength]
    exact ih (h.pushFraction c)

end Significand

namespace Numeral

/-- All digits of a numeral but those of its exponent, as one number. -/
def digitsValue (n : Numeral) : ℕ := Nat.ofDigitChars 10 (n.whole ++ n.fraction) 0

theorem holds_significand (n : Numeral) :
    n.significand.Holds n.digitsValue (-n.fraction.length) := by
  have hempty : (Significand.mk 0 false 0).Holds 0 0 := Significand.holds_of_eq (Nat.zero_le _)
  have hdigits := (hempty.foldl_pushWhole n.whole).foldl_pushFraction n.fraction
  rw [← Nat.ofDigitChars_append, zero_sub] at hdigits
  exact hdigits

/-! ## The value that is read -/

/-- The exponent of a numeral as a number. -/
def exponentNumber (n : Numeral) : ℤ :=
  match n.exponent with
  | none => 0
  | some (down, digits) =>
    if down then -(Nat.ofDigitChars 10 digits 0 : ℤ) else Nat.ofDigitChars 10 digits 0

/-- The power of ten that the number of all digits is to be multiplied by. -/
def scale (n : Numeral) : ℤ := n.exponentNumber - n.fraction.length

/-- The value of a numeral without its sign. -/
def magnitude (n : Numeral) : ℚ := n.digitsValue * 10 ^ n.scale

/-- Digits of an exponent that can be read out. -/
structure HasExponent (n : Numeral) : Prop where
  isDigit : ∀ e ∈ n.exponent, ∀ c ∈ e.2, c.isDigit = true
  small : n.exponentNumber.natAbs ≤ maxExponent

/-- The significand is multiplied by one power of ten. -/
theorem float?_eq {n : Numeral} (h : n.HasExponent) :
    n.float? = (scaled? 6 n.significand.value.toUInt64.toFloat
      (n.significand.exponent + n.exponentNumber)).map (signedFloat n.negative) := by
  obtain ⟨hdigits, hsmall⟩ := h
  unfold float?
  unfold exponentNumber at hsmall ⊢
  dsimp only
  cases hexponent : n.exponent with
  | none => rw [add_zero]
  | some part =>
    obtain ⟨down, digits⟩ := part
    have hread : exponentValue? digits = some (Nat.ofDigitChars 10 digits 0) := by
      unfold exponentValue?
      rw [Text.readDigits_eq_ok (hdigits _ hexponent)]
      · rfl
      · rw [hexponent] at hsmall
        cases down <;> simpa using hsmall
    dsimp only
    rw [hread]
    cases down <;> rfl

end Numeral

/-- A number that one power of ten is enough for has a product with it, unless that is infinite. -/
theorem isSome_scaled?_of_natAbs_le {steps : ℕ} {f : Float} {e : ℤ} (he : e.natAbs ≤ 308)
    (hfinite : 0 ≤ e → (f * powerOfTen e.toNat).isInf = false) :
    (scaled? (steps + 1) f e).isSome = true := by
  rw [scaled?, if_pos he]
  by_cases hup : 0 ≤ e
  · dsimp only
    rw [if_pos hup, hfinite hup]
    rfl
  · rw [if_neg hup]
    rfl

/-- Every number can be divided by a power of ten, in two steps if need be. -/
theorem isSome_scaled?_of_neg (f : Float) {e : ℤ} (he : -616 ≤ e) (hneg : e < 0) :
    (scaled? 6 f e).isSome = true := by
  by_cases hone : e.natAbs ≤ 308
  · exact isSome_scaled?_of_natAbs_le hone (by omega)
  · rw [scaled?, if_neg hone]
    split_ifs with hzero
    · rfl
    · omega
    · exact isSome_scaled?_of_natAbs_le (by omega) (by omega)

/-- A product with a power of ten is in range if it is small. -/
theorem isSome_scaled? {s : ℕ} {e : ℤ} (hs : s ≤ Text.maxUnsigned64) (he : -616 ≤ e)
    (hsmall : (s : ℚ) * 10 ^ e ≤ Double.assured) :
    (scaled? 6 s.toUInt64.toFloat e).isSome = true := by
  rcases lt_or_ge e 0 with hneg | hup
  · exact isSome_scaled?_of_neg _ he hneg
  obtain ⟨n, rfl⟩ := Int.eq_ofNat_of_zero_le hup
  have hvalue : s.toUInt64.toNat = s := UInt64.toNat_ofNat_of_lt (Nat.lt_succ_of_le hs)
  rw [zpow_natCast] at hsmall
  by_cases hn : n ≤ 308
  · refine isSome_scaled?_of_natAbs_le hn fun _ => Double.isInf_scaled hn ?_
    rw [hvalue]
    exact hsmall
  · -- A power of ten as large as this one exceeds the bound by itself.
    obtain rfl : s = 0 := by
      by_contra hpos
      have hpower : (10 : ℚ) ^ 309 ≤ s * 10 ^ n := by
        exact_mod_cast (Nat.pow_le_pow_right (by decide) (by omega)).trans
          (Nat.le_mul_of_pos_left (10 ^ n) (Nat.pos_of_ne_zero hpos))
      exact absurd (hpower.trans hsmall) (not_le.mpr Double.assured_lt)
    have habove : ¬ (n : ℤ).natAbs ≤ 308 := by omega
    rw [scaled?, if_neg habove]
    rfl

/-- A numeral is read as a number if its value is not too large and it is not written too small. -/
theorem Numeral.isSome_number? {n : Numeral} (h : n.HasExponent) (hscale : -616 ≤ n.scale)
    (hsmall : n.magnitude ≤ Double.assured) : n.number?.isSome = true := by
  obtain ⟨-, hvalue, hshift, hle⟩ := n.holds_significand
  have hexponent : -616 ≤ n.significand.exponent + n.exponentNumber := by
    unfold scale at hscale
    omega
  have hproduct : (n.significand.value : ℚ) * 10 ^ (n.significand.exponent + n.exponentNumber) ≤
      n.magnitude := by
    have hten : (10 : ℚ) ≠ 0 := by norm_num
    rw [magnitude, scale, sub_eq_neg_add, zpow_add₀ hten, zpow_add₀ hten, ← mul_assoc, ← mul_assoc]
    exact mul_le_mul_of_nonneg_right hle (by positivity)
  unfold number?
  cases n.whole? with
  | some value => rfl
  | none =>
    dsimp only
    rw [float?_eq h, Option.isSome_map]
    exact isSome_scaled? hvalue hexponent (hproduct.trans hsmall)

end Json

/-! ## Decimals -/

namespace Decimal

open Json (Numeral)

variable {d : Decimal} {negative : Bool}

theorem ofDigitChars_digitChars (d : Decimal) : Nat.ofDigitChars 10 d.digitChars 0 = d.digits :=
  Nat.ofDigitChars_ten_toDigits

theorem ofDigitChars_zeros (n value : ℕ) :
    Nat.ofDigitChars 10 (zeros n) value = 10 ^ n * value := by
  induction n generalizing value with
  | zero => simp [zeros]
  | succ n ih =>
    rw [zeros, List.replicate_succ, Nat.ofDigitChars_cons]
    show Nat.ofDigitChars 10 (zeros n) (10 * value + 0) = _
    rw [ih]
    ring

theorem exponentNumber_exponentPart (negative : Bool) (whole fraction : List Char) (n : ℤ) :
    (Numeral.mk negative whole fraction (some (exponentPart n))).exponentNumber = n := by
  unfold Numeral.exponentNumber exponentPart
  dsimp only
  rw [Nat.ofDigitChars_ten_toDigits]
  split_ifs with hneg
  · have := of_decide_eq_true hneg
    omega
  · have := of_decide_eq_false (Bool.eq_false_iff.mpr hneg)
    omega

theorem length_digitChars_pos (d : Decimal) : 0 < d.digitChars.length :=
  List.length_pos_iff.mpr Nat.toDigits_ne_nil

/-- A numeral has the value of a decimal. It goes no further down than the decimal or one place
after the point, and its exponent, if there is one, is that of the first digit. -/
structure WrittenAs (d : Decimal) (n : Numeral) : Prop where
  magnitude_eq : n.magnitude = d.value
  scale_ge : min d.exponent (-1) ≤ n.scale
  exponent_eq : n.exponentNumber = 0 ∨
    d.digits ≠ 0 ∧ n.exponentNumber = d.digitChars.length + d.exponent - 1

/-- A decimal is written with its digits if the point is where it belongs. -/
theorem writtenAs_of_eq {n : Numeral} (hdigits : n.digitsValue = d.digits)
    (hscale : n.scale = d.exponent) (hexponent : n.exponentNumber = 0 ∨
      d.digits ≠ 0 ∧ n.exponentNumber = d.digitChars.length + d.exponent - 1) :
    d.WrittenAs n := by
  refine ⟨?_, ?_, hexponent⟩
  · rw [Numeral.magnitude, hdigits, hscale, value]
  · rw [hscale]
    exact min_le_left _ _

theorem writtenAs_numeral (negative : Bool) (d : Decimal) : d.WrittenAs (d.numeral negative) := by
  have hlength := d.length_digitChars_pos
  unfold numeral
  dsimp only
  -- Two notations have a zero after the point that is no digit of the decimal; in the other three
  -- the power of ten of the last digit is that of the decimal.
  split_ifs with hzero hplain hpointed hsmall
  · have hdigits : d.digits = 0 := by simpa using hzero
    refine ⟨?_, min_le_right _ _, .inl rfl⟩
    rw [value, hdigits, Nat.cast_zero, zero_mul]
    exact zero_mul _
  · obtain ⟨e, he⟩ := Int.eq_ofNat_of_zero_le (by simpa using (Bool.and_eq_true_iff.mp hplain).1)
    refine ⟨?_, min_le_right _ _, .inl rfl⟩
    have hdigits : Nat.ofDigitChars 10 (d.digitChars ++ zeros e ++ ['0']) 0 =
        10 * (10 ^ e * d.digits) := by
      rw [Nat.ofDigitChars_append, Nat.ofDigitChars_append, ofDigitChars_digitChars,
        ofDigitChars_zeros]
      rfl
    have hscale : (-1 : ℤ) = 0 - (['0'] : List Char).length := rfl
    rw [Numeral.magnitude, Numeral.digitsValue, Numeral.scale, Numeral.exponentNumber, value, he,
      Int.toNat_natCast, hdigits, ← hscale]
    push_cast
    rw [zpow_neg_one, zpow_natCast]
    ring
  · have hscale : Numeral.scale ⟨negative, ['0'],
        zeros (-((d.digitChars.length : ℤ) + d.exponent)).toNat ++ d.digitChars, none⟩ =
          d.exponent := by
      simp only [Numeral.scale, Numeral.exponentNumber, zeros, List.length_append,
        List.length_replicate]
      omega
    refine writtenAs_of_eq ?_ hscale (.inl rfl)
    rw [Numeral.digitsValue, List.singleton_append, Nat.ofDigitChars_cons, Nat.ofDigitChars_append,
      ofDigitChars_zeros]
    exact d.ofDigitChars_digitChars
  · simp only [Bool.and_eq_true, decide_eq_true_eq] at hplain hpointed
    have hscale : Numeral.scale ⟨negative,
        d.digitChars.take ((d.digitChars.length : ℤ) + d.exponent).toNat,
        d.digitChars.drop ((d.digitChars.length : ℤ) + d.exponent).toNat, none⟩ =
          d.exponent := by
      simp only [Numeral.scale, Numeral.exponentNumber, List.length_drop]
      omega
    refine writtenAs_of_eq ?_ hscale (.inl rfl)
    rw [Numeral.digitsValue, List.take_append_drop, ofDigitChars_digitChars]
  · have hscale : Numeral.scale ⟨negative, d.digitChars.take 1, d.digitChars.drop 1,
        some (exponentPart ((d.digitChars.length : ℤ) + d.exponent - 1))⟩ = d.exponent := by
      rw [Numeral.scale, exponentNumber_exponentPart, List.length_drop]
      omega
    refine writtenAs_of_eq ?_ hscale
      (.inr ⟨by simpa using hzero, exponentNumber_exponentPart _ _ _ _⟩)
    rw [Numeral.digitsValue, List.take_append_drop, ofDigitChars_digitChars]

/-- The first digit of a number that is not 0 is not 0. -/
theorem pow_le_digits (h : d.digits ≠ 0) : 10 ^ (d.digitChars.length - 1) ≤ d.digits := by
  obtain ⟨v, rest, hdigits, hpos, hlt, -⟩ := exists_digitChars h
  have hvalue := d.ofDigitChars_digitChars
  have hdigit : 10 * 0 + ((Nat.digitChar v).toNat - '0'.toNat) = v := by
    rw [Nat.toNat_digitChar_of_lt_ten hlt]
    simp
  rw [hdigits, Nat.ofDigitChars_cons, hdigit, Nat.ofDigitChars_eq_ofDigitChars_zero] at hvalue
  rw [hdigits, List.length_cons, Nat.add_sub_cancel, ← hvalue]
  exact (Nat.le_mul_of_pos_right _ hpos).trans (Nat.le_add_right _ _)

/-- The value of a decimal says where its first digit stands. -/
theorem zpow_le_value (h : d.digits ≠ 0) :
    (10 : ℚ) ^ ((d.digitChars.length : ℤ) + d.exponent - 1) ≤ d.value := by
  have hlength := d.length_digitChars_pos
  have hdigits : (10 : ℚ) ^ (d.digitChars.length - 1) ≤ d.digits := by
    exact_mod_cast pow_le_digits h
  calc (10 : ℚ) ^ ((d.digitChars.length : ℤ) + d.exponent - 1)
      = 10 ^ (d.digitChars.length - 1) * 10 ^ d.exponent := by
        rw [← zpow_natCast, ← zpow_add₀ (by norm_num)]
        congr 1
        omega
    _ ≤ d.value := mul_le_mul_of_nonneg_right hdigits (by positivity)

/-- What is written for a decimal that is not too small or too large is read as a number. -/
theorem isSome_number?_numeral (negative : Bool) (hexponent : -348 ≤ d.exponent)
    (hvalue : d.value ≤ Double.assured) : (d.numeral negative).number?.isSome = true := by
  obtain ⟨hmagnitude, hscale, hpart⟩ := d.writtenAs_numeral negative
  have hdigits := (d.isGrammatical_numeral negative).exponent
  refine Numeral.isSome_number? ⟨fun e he => (hdigits e he).2, ?_⟩ (by omega)
    (hmagnitude ▸ hvalue)
  rcases hpart with hnone | ⟨hne, hfirst⟩
  · rw [hnone]
    decide
  · have hlength := d.length_digitChars_pos
    have hlt : (d.digitChars.length : ℤ) + d.exponent - 1 < 309 := by
      have hpower := ((zpow_le_value hne).trans hvalue).trans_lt Double.assured_lt
      rw [← zpow_natCast] at hpower
      exact (zpow_lt_zpow_iff_right₀ (by norm_num : (1 : ℚ) < 10)).mp hpower
    have hmax : (309 : ℕ) + 348 ≤ Json.maxExponent := by decide
    omega

end Decimal

/-! ## Double-precision numbers -/

namespace Binary64

variable {x : Binary64} {bits : UInt64}

theorem bounds_of_ofBits? (h : ofBits? bits = some x) :
    x.mantissa < 2 ^ 53 ∧ -1074 ≤ x.exponent ∧ x.exponent ≤ 971 := by
  unfold ofBits? leastNormal at h
  dsimp only at h
  split_ifs at h with hinfinite hsubnormal
  all_goals cases h
  · exact ⟨by dsimp only; omega, le_rfl, by dsimp only; decide⟩
  · have hfield : bits.toNat / 0x10000000000000 % 2048 ≠ 2047 := by simpa using hinfinite
    have hzero : bits.toNat / 0x10000000000000 % 2048 ≠ 0 := by simpa using hsubnormal
    exact ⟨by dsimp only; omega, by dsimp only; omega, by dsimp only; omega⟩

/-- Every number but the six largest of each sign has a decimal that is certainly in range. -/
theorem value_shortest_le_assured (hmantissa : x.mantissa < 2 ^ 53) (hexponent : x.exponent ≤ 971)
    (h : x.exponent < 971 ∨ x.mantissa < 2 ^ 53 - 6) : x.shortest.value ≤ Double.assured := by
  refine x.value_shortest_le.trans ?_
  have hunit : (0 : ℚ) < 2 ^ (971 : ℤ) := by positivity
  rcases hexponent.lt_or_eq with hlt | heq
  · have hhalf : (2 : ℚ) ^ x.exponent ≤ 2 ^ (971 : ℤ) * (1 / 2) := by
      have hnext : (2 : ℚ) ^ (971 : ℤ) * 2⁻¹ = 2 ^ (970 : ℤ) := (zpow_sub_one₀ two_ne_zero 971).symm
      rw [one_div, hnext]
      exact zpow_le_zpow_right₀ (by norm_num) (by omega)
    have hcast : (x.mantissa : ℚ) + 1 / 2 ≤ 2 ^ 53 := by
      have hle : (x.mantissa : ℚ) + 1 ≤ 2 ^ 53 := by exact_mod_cast hmantissa
      linarith
    calc ((x.mantissa : ℚ) + 1 / 2) * 2 ^ x.exponent ≤ 2 ^ 53 * (2 ^ (971 : ℤ) * (1 / 2)) :=
          mul_le_mul hcast hhalf (by positivity) (by positivity)
      _ ≤ Double.assured := by
          rw [Double.assured]
          generalize (2 : ℚ) ^ (971 : ℤ) = unit at hunit
          linarith
  · have hcast : (x.mantissa : ℚ) + 1 / 2 ≤ 2 ^ 53 - 6 := by
      have hlt : x.mantissa + 1 ≤ 2 ^ 53 - 6 := by omega
      have hle : (x.mantissa : ℚ) + 1 ≤ (2 ^ 53 - 6 : ℕ) := by exact_mod_cast hlt
      norm_num at hle ⊢
      linarith
    rw [heq]
    exact mul_le_mul_of_nonneg_right hcast hunit.le

/-- The six largest numbers of each sign are in range, too: their decimals happen not to be rounded
upwards far enough. -/
theorem isSome_number?_largest : ∀ (negative : Bool) (k : Fin 6),
    ((Binary64.mk negative (2 ^ 53 - 6 + k) 971).shortest.numeral negative).number?.isSome =
      true := by
  decide +kernel

/-- Every double-precision number is written as a numeral that is read as a number. -/
theorem isSome_number?_of_ofBits? (h : ofBits? bits = some x) :
    (x.shortest.numeral x.negative).number?.isSome = true := by
  obtain ⟨hmantissa, hleast, hexponent⟩ := bounds_of_ofBits? h
  by_cases hlarge : x.exponent = 971 ∧ 2 ^ 53 - 6 ≤ x.mantissa
  · obtain ⟨negative, mantissa, exponent⟩ := x
    obtain ⟨rfl, hlow⟩ : exponent = 971 ∧ 2 ^ 53 - 6 ≤ mantissa := hlarge
    obtain ⟨k, rfl⟩ := Nat.exists_eq_add_of_le hlow
    exact isSome_number?_largest negative ⟨k, by dsimp only at hmantissa; omega⟩
  · exact Decimal.isSome_number?_numeral x.negative (le_exponent_shortest hleast)
      (value_shortest_le_assured hmantissa hexponent (by omega))

end Binary64

end UserAccounts
