import Mathlib
import UserAccounts.Decimal.Shortest

/-!
# The magnitude of shortest decimals

The decimal that is written for a number rounds to the number, so it lies at most half a unit of
the last place above it (`Binary64.value_shortest_le`), and its power of ten is not much below the
least positive number (`Binary64.le_exponent_shortest`).
-/

namespace UserAccounts

/-- The value of a decimal. -/
def Decimal.value (d : Decimal) : ℚ := d.digits * 10 ^ d.exponent

namespace Binary64

variable {x : Binary64} {k : ℤ} {d : ℕ}

/-- An interval, with or without its ends, is bounded by its upper end. -/
theorem le_of_within {closed : Bool} {low high n : ℕ}
    (h : (if closed = true then decide (low ≤ n) && decide (n ≤ high)
      else decide (low < n) && decide (n < high)) = true) : n ≤ high := by
  split at h
  · exact of_decide_eq_true (Bool.and_eq_true_iff.mp h).2
  · exact (of_decide_eq_true (Bool.and_eq_true_iff.mp h).2).le

/-- What is found on a grid is not above the upper end of the numbers that round to `x`. -/
theorem le_of_onGrid? (h : x.onGrid? k = some d) :
    d * (x.quarterUnit k).2 ≤ (4 * x.mantissa + 2) * (x.quarterUnit k).1 := by
  unfold onGrid? at h
  dsimp only at h
  split at h
  · rename_i hbelow habove
    split at h
    · cases h
      exact le_of_within hbelow
    · cases h
      exact le_of_within habove
  · rename_i hbelow _
    cases h
    exact le_of_within hbelow
  · rename_i _ habove
    cases h
    exact le_of_within habove
  · cases h

/-- The power of a base as a fraction of two natural numbers. -/
theorem toNat_pow_div {b : ℚ} (hb : b ≠ 0) (n : ℤ) : b ^ n.toNat = b ^ n * b ^ (-n).toNat := by
  rw [← zpow_natCast, ← zpow_natCast, ← zpow_add₀ hb]
  congr 1
  omega

/-- What is found on a grid is at most half a unit of the last place above `x`. -/
theorem value_le_of_onGrid? (h : x.onGrid? k = some d) :
    (Decimal.mk d k).value ≤ (x.mantissa + 1 / 2) * 2 ^ x.exponent := by
  have hle := le_of_onGrid? h
  unfold quarterUnit at hle
  have hcast : (d : ℚ) * (2 ^ (-(x.exponent - 2)).toNat * 10 ^ k.toNat) ≤
      (4 * x.mantissa + 2) * (2 ^ (x.exponent - 2).toNat * 10 ^ (-k).toNat) := by
    exact_mod_cast hle
  rw [toNat_pow_div (by norm_num : (10 : ℚ) ≠ 0) k,
    toNat_pow_div two_ne_zero (x.exponent - 2)] at hcast
  have hquarter : (2 : ℚ) ^ x.exponent = 2 ^ (x.exponent - 2) * 4 := by
    have hsplit := zpow_add₀ (two_ne_zero : (2 : ℚ) ≠ 0) (x.exponent - 2) 2
    rw [sub_add_cancel] at hsplit
    rw [hsplit]
    norm_num
  have hpositive : (0 : ℚ) < 2 ^ (-(x.exponent - 2)).toNat * 10 ^ (-k).toNat := by positivity
  refine le_of_mul_le_mul_right ?_ hpositive
  rw [Decimal.value, hquarter]
  generalize (2 : ℚ) ^ (x.exponent - 2) = unit at hcast ⊢
  generalize (10 : ℚ) ^ k = grid at hcast ⊢
  linarith

/-- The search finds nothing, or it finds a decimal of about the magnitude of `x`. -/
theorem searchGrids_spec (steps : ℕ) (k : ℤ) :
    ((x.searchGrids steps k).digits = 0 ∨
      (x.searchGrids steps k).value ≤ (x.mantissa + 1 / 2) * 2 ^ x.exponent) ∧
    k - steps ≤ (x.searchGrids steps k).exponent := by
  induction steps generalizing k with
  | zero => exact ⟨.inl rfl, by simp [searchGrids]⟩
  | succ steps ih =>
    unfold searchGrids
    cases hgrid : x.onGrid? k with
    | some d => exact ⟨.inr (value_le_of_onGrid? hgrid), by dsimp only; omega⟩
    | none =>
      obtain ⟨hvalue, hexponent⟩ := ih (k - 1)
      exact ⟨hvalue, by push_cast; omega⟩

theorem value_shortest_le (x : Binary64) :
    x.shortest.value ≤ (x.mantissa + 1 / 2) * 2 ^ x.exponent := by
  have hzero {d : Decimal} (hd : d.digits = 0) :
      d.value ≤ (x.mantissa + 1 / 2) * 2 ^ x.exponent := by
    rw [Decimal.value, hd, Nat.cast_zero, zero_mul]
    positivity
  unfold shortest
  split_ifs
  · exact hzero rfl
  · exact (x.searchGrids_spec 25 x.ceilingExponent).1.elim hzero id

theorem le_exponent_shortest (hx : -1074 ≤ x.exponent) : -348 ≤ x.shortest.exponent := by
  unfold shortest
  split_ifs
  · decide
  · have hsearch := (x.searchGrids_spec 25 x.ceilingExponent).2
    have hceiling : -323 ≤ x.ceilingExponent := by
      unfold ceilingExponent
      omega
    omega

end Binary64

end UserAccounts
