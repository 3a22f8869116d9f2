import Mathlib
import UserAccounts.Text.Numeral

/-!
# Numerals

Reading a printed natural number gives the number back (`parseNatural_natural`), as long as it does
not exceed what the reader accepts; so different numbers are printed differently.
-/

namespace UserAccounts.Text

theorem natural_injective {m n : Nat} (h : natural m = natural n) : m = n := by
  have hdigits : Nat.toDigits 10 m = Nat.toDigits 10 n := by
    have := congrArg String.toList h
    simpa [natural] using this
  rw [← Nat.ofDigitChars_ten_toDigits (n := m), hdigits, Nat.ofDigitChars_ten_toDigits]

theorem toList_natural (n : Nat) : (natural n).toList = Nat.toDigits 10 n := by
  simp [natural]

/-- The characters of a printed number are decimal digits. -/
theorem isDigit_of_mem_natural {n : Nat} {c : Char} (h : c ∈ (natural n).toList) :
    c.isDigit = true := by
  rw [toList_natural] at h
  exact Nat.isDigit_of_mem_toDigits (by decide) (by decide) h

theorem range_of_isDigit {c : Char} (h : c.isDigit = true) : '0' ≤ c ∧ c ≤ '9' := by
  simp only [Char.isDigit, ge_iff_le, Bool.and_eq_true, decide_eq_true_eq] at h
  exact h

theorem digitValue?_of_isDigit {c : Char} (h : c.isDigit = true) :
    digitValue? c = some (c.toNat - '0'.toNat) := by
  simp [digitValue?, range_of_isDigit h]

theorem ofDigitChars_le_append (value : Nat) (digits more : List Char) :
    Nat.ofDigitChars 10 digits value ≤ Nat.ofDigitChars 10 (digits ++ more) value := by
  rw [Nat.ofDigitChars_append, Nat.ofDigitChars_eq_ofDigitChars_zero (l := more)]
  exact Nat.le_trans (Nat.le_mul_of_pos_left _ (Nat.pow_pos (by decide))) (Nat.le_add_right _ _)

/-- Digits are read up to the end if the number that they make is not too large. -/
theorem readDigits_eq_ok {limit value : Nat} {digits : List Char}
    (hdigits : ∀ c ∈ digits, c.isDigit = true) (hlimit : Nat.ofDigitChars 10 digits value ≤ limit) :
    readDigits limit value digits = .ok (Nat.ofDigitChars 10 digits value) := by
  induction digits generalizing value with
  | nil => simp [readDigits]
  | cons c rest ih =>
    obtain ⟨hc, hrest⟩ := List.forall_mem_cons.mp hdigits
    rw [Nat.ofDigitChars_cons] at hlimit ⊢
    -- What is read so far is no larger than the whole number, so it does not exceed the limit.
    have hnext : 10 * value + (c.toNat - '0'.toNat) ≤ limit :=
      Nat.le_trans (ofDigitChars_le_append _ [] rest) hlimit
    rw [readDigits, digitValue?_of_isDigit hc]
    show (if limit < _ then _ else _) = _
    rw [if_neg (Nat.not_lt.mpr hnext)]
    exact ih hrest hlimit

/-- A printed number is read as what it is. -/
theorem parseNatural_natural {limit n : Nat} (h : n ≤ limit) :
    parseNatural limit (natural n) = .ok n := by
  have hread : readDigits limit 0 (natural n).toList = .ok n := by
    have hvalue : Nat.ofDigitChars 10 (natural n).toList 0 = n := by
      rw [toList_natural, Nat.ofDigitChars_ten_toDigits]
    rw [readDigits_eq_ok (fun c hc => isDigit_of_mem_natural hc) (by rw [hvalue]; exact h), hvalue]
  have hdigit (c : Char) (hc : c ∈ (natural n).toList) : c ≠ '+' := by
    rintro rfl
    exact absurd (isDigit_of_mem_natural hc) (by decide)
  unfold parseNatural
  cases hchars : (natural n).toList with
  | nil => exact absurd (toList_natural n ▸ hchars) Nat.toDigits_ne_nil
  | cons c rest =>
    rw [hchars] at hread hdigit
    have hc : c ≠ '+' := hdigit c List.mem_cons_self
    split
    · rename_i heq
      cases heq
    · rename_i heq
      cases heq
      exact absurd rfl hc
    · rename_i heq
      cases heq
      exact absurd rfl hc
    · exact hread

end UserAccounts.Text
