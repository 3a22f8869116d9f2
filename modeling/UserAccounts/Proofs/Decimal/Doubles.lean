import Mathlib
import UserAccounts.Json.Numeral
import UserAccounts.Proofs.Decimal.Magnitude

/-!
# Products of double-precision numbers

A numeral is read as a significand times a power of ten, both rounded to double precision before
they are multiplied. `UpTo q u` says of an unpacked number that it is one of full precision, at
least 1 and at most `q`. Rounding makes such a number of every positive one that is not too large,
and adds at most one part in `2 ^ 52` (`upTo_round`). So do the conversion of a whole number
(`upTo_toFloat`), a power of ten (`upTo_powerOfTen`) and a product (`upTo_mul`), and therefore a
product of a significand and a power of ten is infinite only if it is close to the largest number,
or beyond it (`isInf_scaled`).
-/

namespace UserAccounts.Double

open Float.Model Float.Model.UnpackedFloat

/-- A number of full precision, at least 1 and at most `bound`. -/
inductive UpTo (bound : ℚ) : UnpackedFloat → Prop where
  | finite {m : ℕ} {e : ℤ} (hpos : 0 < m) (hlow : 2 ^ 52 ≤ m) (hhigh : m < 2 ^ 53)
      (hleast : -52 ≤ e) (hgreatest : e ≤ 971) (hvalue : (m : ℚ) * 2 ^ e ≤ bound) :
      UpTo bound (.finite .positive m e hpos)

/-- The largest number of double precision. -/
def greatest : ℚ := (2 ^ 53 - 1) * 2 ^ (971 : ℤ)

/-- One and the largest part of a number that rounding may add. -/
def excess : ℚ := 1 + 1 / 2 ^ 52

theorem greatest_lt : greatest < 2 ^ 52 * 2 ^ (972 : ℤ) := by
  have hunit : (0 : ℚ) < 2 ^ (971 : ℤ) := by positivity
  have hnext : (2 : ℚ) ^ (972 : ℤ) = 2 ^ (971 : ℤ) * 2 := zpow_add_one₀ two_ne_zero 971
  rw [greatest, hnext]
  generalize (2 : ℚ) ^ (971 : ℤ) = unit at hunit
  linarith

/-! ## Rounding -/

theorem mantissa_shiftRight (em : ExtendedMantissa) (k : ℕ) :
    (em >>> k).mantissa = em.mantissa / 2 ^ k := by
  show (k.repeat ExtendedMantissa.shiftRightOne em).mantissa = _
  induction k with
  | zero => simp [Nat.repeat]
  | succ k ih =>
    rw [Nat.repeat, pow_succ, ← Nat.div_div_eq_div_mul, ← ih]
    rfl

theorem roundedMantissa_eq (em : ExtendedMantissa) :
    em.roundedMantissa = em.mantissa ∨ em.roundedMantissa = em.mantissa + 1 := by
  obtain ⟨m, roundBit, stickyBit⟩ := em
  cases roundBit <;> cases stickyBit
  · exact .inl rfl
  · exact .inl rfl
  · rcases Nat.mod_two_eq_zero_or_one m with h | h
    · exact .inl (congrArg (m + ·) h)
    · exact .inr (congrArg (m + ·) h)
  · exact .inr rfl

/-- A mantissa of at least 53 bits is cut down to the first 53. -/
theorem shiftToTargetExponent_eq {m k : ℕ} {e : ℤ} (hlog : m.log2 = 52 + k) (he : -52 ≤ e + k) :
    ∃ roundBit stickyBit, shiftToTargetExponent Format.binary64 m e .exact =
      (⟨m / 2 ^ k, roundBit, stickyBit⟩, e + k) := by
  have htarget : Format.binary64.targetExponent (totalExponent m e) = e + k := by
    have hbits : Format.binary64.mantissaBits = 53 := rfl
    have hleast : Format.binary64.minExponent = -1074 := rfl
    rw [Format.targetExponent, totalExponent, hbits, hleast, hlog]
    omega
  have hamount : (e + k - e).toNat = k := by omega
  rw [shiftToTargetExponent, htarget, shiftToExponent, hamount]
  have hmantissa := mantissa_shiftRight (.ofMantissaAndAccuracy m .exact) k
  generalize ExtendedMantissa.ofMantissaAndAccuracy m .exact >>> k = em at hmantissa
  obtain ⟨mantissa, roundBit, stickyBit⟩ := em
  obtain rfl : mantissa = m / 2 ^ k := hmantissa
  exact ⟨roundBit, stickyBit, rfl⟩

theorem log2_eq {m : ℕ} (hlow : 2 ^ 52 ≤ m) (hhigh : m < 2 ^ 53) : m.log2 = 52 :=
  (Nat.log2_eq_iff (by omega)).mpr ⟨hlow, hhigh⟩

/-- What is left of the first 53 bits and a carry, if there is one. -/
theorem roundWithAccuracy_eq {m k : ℕ} {e : ℤ} (hlog : m.log2 = 52 + k) (he : -52 ≤ e + k)
    (hlow : 2 ^ 52 ≤ m / 2 ^ k) (hhigh : m / 2 ^ k < 2 ^ 53) :
    (∃ (r : ℕ) (hpos : 0 < r), m / 2 ^ k ≤ r ∧ r ≤ m / 2 ^ k + 1 ∧ r < 2 ^ 53 ∧
      roundWithAccuracy Format.binary64 .positive m e .exact = .finite .positive r (e + k) hpos) ∨
    (m / 2 ^ k + 1 = 2 ^ 53 ∧ ∃ hpos, roundWithAccuracy Format.binary64 .positive m e .exact =
      .finite .positive (2 ^ 52) (e + k + 1) hpos) := by
  obtain ⟨roundBit, stickyBit, hshift⟩ := shiftToTargetExponent_eq hlog he
  have hrounded := roundedMantissa_eq ⟨m / 2 ^ k, roundBit, stickyBit⟩
  unfold roundWithAccuracy
  rw [hshift]
  dsimp only at hrounded ⊢
  generalize ExtendedMantissa.roundedMantissa ⟨m / 2 ^ k, roundBit, stickyBit⟩ = r at hrounded ⊢
  by_cases hcarry : r < 2 ^ 53
  · left
    have hr : r.log2 = 52 + 0 := log2_eq (by omega) hcarry
    obtain ⟨_, _, hshift'⟩ := shiftToTargetExponent_eq (e := e + k) hr (by omega)
    refine ⟨r, by omega, by omega, by omega, hcarry, ?_⟩
    rw [hshift']
    simp only [pow_zero, Nat.div_one, Nat.cast_zero, add_zero]
    rw [dif_neg (by omega)]
  · right
    obtain rfl : r = 2 ^ 53 := by omega
    have hr : (2 ^ 53 : ℕ).log2 = 52 + 1 := Nat.log2_two_pow
    obtain ⟨_, _, hshift'⟩ := shiftToTargetExponent_eq (e := e + k) hr (by push_cast; omega)
    refine ⟨by omega, by norm_num, ?_⟩
    rw [hshift']
    rfl

theorem exponent_lt {c : ℚ} (hc : 0 < c) {i j : ℤ} (h : c * 2 ^ i < c * 2 ^ j) : i < j :=
  (zpow_lt_zpow_iff_right₀ one_lt_two).mp (lt_of_mul_lt_mul_left h hc.le)

/-- In units of the last place that is kept, a number lies between its first 53 bits and one more,
and one more is little. -/
theorem first_bits_bounds {m k : ℕ} {e : ℤ} {q : ℚ} (hlow : 2 ^ 52 ≤ m / 2 ^ k)
    (hq : (m : ℚ) * 2 ^ e ≤ q) :
    ((m / 2 ^ k : ℕ) : ℚ) * 2 ^ (e + k) ≤ q ∧
      (((m / 2 ^ k : ℕ) : ℚ) + 1) * 2 ^ (e + k) ≤ q * excess := by
  have hfloor : ((m / 2 ^ k : ℕ) : ℚ) * 2 ^ (e + k) ≤ q := by
    refine le_trans ?_ hq
    have hmul : ((m / 2 ^ k : ℕ) : ℚ) * 2 ^ k ≤ m := by
      exact_mod_cast Nat.div_mul_le_self m (2 ^ k)
    rw [zpow_add₀ two_ne_zero, zpow_natCast, mul_comm ((2 : ℚ) ^ e), ← mul_assoc]
    exact mul_le_mul_of_nonneg_right hmul (by positivity)
  have hlast : (2 : ℚ) ^ (e + k) ≤ q * (1 / 2 ^ 52) := by
    have hbits : (2 : ℚ) ^ 52 ≤ ((m / 2 ^ k : ℕ) : ℚ) := by exact_mod_cast hlow
    have hunits := (mul_le_mul_of_nonneg_right hbits (by positivity)).trans hfloor
    rw [mul_one_div, le_div_iff₀ (by norm_num)]
    linarith
  refine ⟨hfloor, ?_⟩
  rw [excess]
  linarith

/-- Rounding makes a number of full precision, and adds little to it. -/
theorem upTo_round {m : ℕ} {e : ℤ} {q : ℚ} (hm : 2 ^ 52 ≤ m) (he : 0 ≤ e + m.log2)
    (hq : (m : ℚ) * 2 ^ e ≤ q) (hsmall : q < greatest) :
    UpTo (q * excess) (roundWithAccuracy Format.binary64 .positive m e .exact) := by
  have hne : m ≠ 0 := by omega
  obtain ⟨k, hk⟩ : ∃ k, m.log2 = 52 + k :=
    Nat.exists_eq_add_of_le ((Nat.le_log2 hne).mpr hm)
  obtain ⟨hbelow, habove⟩ := (Nat.log2_eq_iff hne).mp hk
  have hlow : 2 ^ 52 ≤ m / 2 ^ k := by
    rw [Nat.le_div_iff_mul_le (by positivity), ← pow_add]
    exact hbelow
  have hhigh : m / 2 ^ k < 2 ^ 53 := by
    rw [Nat.div_lt_iff_lt_mul (by positivity), ← pow_add]
    convert habove using 2
    omega
  have hle : -52 ≤ e + k := by omega
  have hunit : (0 : ℚ) < 2 ^ (e + k) := by positivity
  obtain ⟨hfloor, hnext⟩ := first_bits_bounds hlow hq
  rcases roundWithAccuracy_eq hk hle hlow hhigh with
    ⟨r, hpos, hfirst, hlast, hbits, heq⟩ | ⟨hcarry, hpos, heq⟩
  · rw [heq]
    refine .finite hpos (hlow.trans hfirst) hbits hle ?_ ?_
    · have hleast : (2 : ℚ) ^ 52 ≤ ((m / 2 ^ k : ℕ) : ℚ) := by exact_mod_cast hlow
      have hunits : (2 : ℚ) ^ 52 * 2 ^ (e + k) < 2 ^ 52 * 2 ^ (972 : ℤ) := by
        refine (mul_le_mul_of_nonneg_right hleast hunit.le).trans_lt (hfloor.trans_lt ?_)
        exact hsmall.trans greatest_lt
      have := exponent_lt (by norm_num) hunits
      omega
    · have hr : (r : ℚ) ≤ (m / 2 ^ k : ℕ) + 1 := by exact_mod_cast hlast
      exact (mul_le_mul_of_nonneg_right hr hunit.le).trans hnext
  · rw [heq]
    have hall : ((m / 2 ^ k : ℕ) : ℚ) + 1 = 2 ^ 53 := by exact_mod_cast hcarry
    refine .finite hpos le_rfl (by norm_num) (by omega) ?_ ?_
    · have hunits : (2 ^ 53 - 1 : ℚ) * 2 ^ (e + k) < (2 ^ 53 - 1) * 2 ^ (971 : ℤ) := by
        rw [← hall, add_sub_cancel_right]
        exact hfloor.trans_lt (hsmall.trans_eq (by rw [greatest, ← hall, add_sub_cancel_right]))
      have := exponent_lt (by norm_num) hunits
      omega
    · refine le_trans (le_of_eq ?_) hnext
      rw [hall, zpow_add₀ (by norm_num : (2 : ℚ) ≠ 0) (e + k) 1]
      push_cast
      ring

/-! ## Packing -/

theorem unpackSign_packComponents {spec : Format} {sign : Sign}
    {exponent : BitVec spec.exponentBits} {mantissa : BitVec spec.mantissaBitsWithoutImplicit} :
    unpackSign (packComponents spec sign exponent mantissa) = sign.toBitVec := by
  ext i hi
  obtain rfl : i = 0 := by omega
  simp [unpackSign, packComponents, BitVec.getLsbD_append, BitVec.getElem_append]

variable {m biased : ℕ}

/-- The first bit of a mantissa of full precision need not be stored. -/
theorem toNat_mantissa (hlow : 2 ^ 52 ≤ m) (hhigh : m < 2 ^ 53) :
    (1#1 ++ BitVec.ofNat 52 m).toNat = m := by
  have hrest : (BitVec.ofNat 52 m).toNat = m - 2 ^ 52 := by
    rw [BitVec.toNat_ofNat]
    omega
  have hbit : (1#1).toNat <<< 52 = 2 ^ 52 := rfl
  rw [BitVec.toNat_append, ← Nat.shiftLeft_add_eq_or_of_lt (BitVec.isLt _), hrest, hbit]
  omega

/-- The stored parts of a number of full precision. -/
theorem pack_eq (hpos : 0 < m) (hlow : 2 ^ 52 ≤ m) (hhigh : m < 2 ^ 53) (hbiased : biased ≤ 2046) :
    UnpackedFloat.pack Format.binary64 (.finite .positive m (biased - 1075) hpos) =
      packComponents Format.binary64 .positive (BitVec.ofNat 11 biased) (BitVec.ofNat 52 m) := by
  have hsum : ((biased : ℤ) - 1075 + Format.binary64.exponentBias +
      Format.binary64.mantissaBitsWithoutImplicit).toNat = biased := by
    have hbias : Format.binary64.exponentBias = 1023 := rfl
    rw [hbias]
    push_cast
    omega
  have hbits : m.log2 + 1 = Format.binary64.mantissaBits := by
    rw [log2_eq hlow hhigh]
    rfl
  have hfits : ¬ 2 ^ Format.binary64.exponentBits ≤ biased + 1 := by
    show ¬ 2 ^ 11 ≤ biased + 1
    omega
  unfold UnpackedFloat.pack
  dsimp only
  rw [hsum, if_neg hfits, if_pos hbits]

/-- A number of full precision is kept as it is. -/
theorem UpTo.unpack_pack {q : ℚ} {u : UnpackedFloat} (h : UpTo q u) :
    (Float.Model.pack u).unpack = u := by
  obtain @⟨m, e, hpos, hlow, hhigh, hleast, hgreatest, -⟩ := h
  obtain ⟨biased, hbiased⟩ : ∃ biased : ℕ, e = biased - 1075 := ⟨(e + 1075).toNat, by omega⟩
  subst hbiased
  have hexponent : (BitVec.ofNat 11 biased).toNat = biased := by
    rw [BitVec.toNat_ofNat, Nat.mod_eq_of_lt (by omega)]
  have hne (other : BitVec 11) (hother : biased ≠ other.toNat) :
      BitVec.ofNat 11 biased ≠ other := by
    rintro rfl
    exact hother hexponent.symm
  show UnpackedFloat.unpack Format.binary64 (UnpackedFloat.pack _ _) = _
  rw [pack_eq hpos hlow hhigh (by omega)]
  unfold UnpackedFloat.unpack
  simp only [unpackMantissa_packComponents, unpackExponent_packComponents,
    unpackSign_packComponents]
  have hones : (-1#11).toNat = 2047 := rfl
  have hzero : (0#11).toNat = 0 := rfl
  rw [if_neg (hne _ (by omega)), if_neg (hne _ (by omega))]
  simp only [hexponent, toNat_mantissa hlow hhigh]
  rfl

/-! ## Arithmetic -/

theorem cast_lt_of_lt {n k : ℕ} (h : n < (2 ^ 53 - 1) * 2 ^ k) :
    (n : ℚ) < (2 ^ 53 - 1) * 2 ^ (k : ℤ) := by
  have hcast : (n : ℚ) < ((2 ^ 53 - 1) * 2 ^ k : ℕ) := by exact_mod_cast h
  have hlargest : (2 ^ 53 - 1 : ℚ) = 9007199254740991 := by norm_num
  rw [zpow_natCast, hlargest]
  exact_mod_cast hcast

theorem lt_greatest {n : ℕ} (h : n < (2 ^ 53 - 1) * 2 ^ 971) : (n : ℚ) < greatest := by
  have hlt := cast_lt_of_lt h
  rw [Nat.cast_ofNat] at hlt
  exact hlt

/-- A whole number that is not 0 is rounded after a shift that gives it 53 bits. -/
theorem ofUInt64_eq {n : UInt64} (hpos : n.toNat ≠ 0) :
    UnpackedFloat.ofUInt64 Format.binary64 n =
      roundWithAccuracy Format.binary64 .positive (n.toNat <<< (52 - n.toNat.log2))
        (0 - (52 - n.toNat.log2 : ℕ)) .exact := by
  have hcompare : compare (n.toNat : ℤ) 0 = .gt := by
    rw [compare_gt_iff_gt]
    omega
  have htarget : Format.binary64.targetExponent (totalExponent n.toNat 0) =
      n.toNat.log2 - 52 := by
    have hbits : Format.binary64.mantissaBits = 53 := rfl
    have hleast : Format.binary64.minExponent = -1074 := rfl
    rw [Format.targetExponent, totalExponent, hbits, hleast]
    omega
  have hamount : ((0 : ℤ) - (n.toNat.log2 - 52)).toNat = 52 - n.toNat.log2 := by omega
  rw [UnpackedFloat.ofUInt64, UnpackedFloat.ofNat, UnpackedFloat.ofInt, UnpackedFloat.normalize,
    hcompare]
  dsimp only
  rw [Int.toNat_natCast, UnpackedFloat.round, htarget]
  dsimp only
  rw [decreaseExponent, hamount]

/-- A whole number of 64 bits. -/
theorem upTo_toFloat {n : UInt64} (hn : n ≠ 0) :
    UpTo (n.toNat * excess) n.toFloat.toModel.unpack := by
  have hpos : n.toNat ≠ 0 := fun h => hn (UInt64.toNat_inj.mp h)
  have hround := ofUInt64_eq hpos
  generalize hshift : 52 - n.toNat.log2 = shift at hround
  have hlow : 2 ^ 52 ≤ n.toNat <<< shift := by
    rw [Nat.shiftLeft_eq]
    calc 2 ^ 52 ≤ 2 ^ (n.toNat.log2 + shift) := Nat.pow_le_pow_right (by decide) (by omega)
      _ = 2 ^ n.toNat.log2 * 2 ^ shift := pow_add ..
      _ ≤ n.toNat * 2 ^ shift := Nat.mul_le_mul_right _ (Nat.log2_self_le hpos)
  have hlog : shift ≤ (n.toNat <<< shift).log2 := by
    rw [Nat.le_log2 (by omega), Nat.shiftLeft_eq]
    exact Nat.le_mul_of_pos_left _ (Nat.pos_of_ne_zero hpos)
  have hvalue : ((n.toNat <<< shift : ℕ) : ℚ) * 2 ^ (0 - shift : ℤ) = n.toNat := by
    rw [Nat.shiftLeft_eq, zero_sub, zpow_neg, zpow_natCast]
    push_cast
    field_simp
  have hfits : n.toNat < (2 ^ 53 - 1) * 2 ^ 971 := n.toNat_lt.trans (by decide +kernel)
  have hupTo := upTo_round hlow (by omega) hvalue.le (lt_greatest hfits)
  rw [← hround] at hupTo
  exact (hupTo.unpack_pack).symm ▸ hupTo

/-- A product that is not too large. -/
theorem upTo_mul {x y : Float} {p q : ℚ} (hx : UpTo p x.toModel.unpack)
    (hy : UpTo q y.toModel.unpack) (hsmall : p * q < greatest) :
    UpTo (p * q * excess) (x * y).toModel.unpack := by
  show UpTo _ (Float.Model.pack (UnpackedFloat.mul Format.binary64 _ _)).unpack
  generalize x.toModel.unpack = u at hx
  generalize y.toModel.unpack = v at hy
  obtain @⟨m, e, hm, hmlow, hmhigh, heleast, hegreatest, hmp⟩ := hx
  obtain @⟨n, f, hn, hnlow, hnhigh, hfleast, hfgreatest, hnq⟩ := hy
  have hproduct : 2 ^ 52 * 2 ^ 52 ≤ m * n := Nat.mul_le_mul hmlow hnlow
  have hlog : 52 + 52 ≤ (m * n).log2 :=
    (Nat.le_log2 (by positivity)).mpr (pow_add 2 52 52 ▸ hproduct)
  have hvalue : ((m * n : ℕ) : ℚ) * 2 ^ (e + f) ≤ p * q := by
    have hp : (0 : ℚ) ≤ m * 2 ^ e := by positivity
    have hq : (0 : ℚ) ≤ n * 2 ^ f := by positivity
    calc ((m * n : ℕ) : ℚ) * 2 ^ (e + f) = m * 2 ^ e * (n * 2 ^ f) := by
          rw [zpow_add₀ two_ne_zero]
          push_cast
          ring
      _ ≤ p * q := mul_le_mul hmp hnq hq (hp.trans hmp)
  have hround := upTo_round (by omega) (by omega) hvalue hsmall
  exact (hround.unpack_pack).symm ▸ hround

/-- Whether a number is one of full precision, at least 1 and at most `bound`. -/
def isUpTo (bound : ℕ) : UnpackedFloat → Bool
  | .finite .positive m e _ =>
    2 ^ 52 ≤ m && m < 2 ^ 53 && -52 ≤ e && e ≤ 971 && m * 2 ^ e.toNat ≤ bound * 2 ^ (-e).toNat
  | _ => false

theorem upTo_of_isUpTo {bound : ℕ} {u : UnpackedFloat} (h : isUpTo bound u = true) :
    UpTo bound u := by
  unfold isUpTo at h
  split at h
  · rename_i m e hpos
    simp only [Bool.and_eq_true, decide_eq_true_eq] at h
    obtain ⟨⟨⟨⟨hlow, hhigh⟩, hleast⟩, hgreatest⟩, hvalue⟩ := h
    refine .finite hpos hlow hhigh hleast hgreatest ?_
    have hcast : (m : ℚ) * 2 ^ e.toNat ≤ bound * 2 ^ (-e).toNat := by exact_mod_cast hvalue
    rw [Binary64.toNat_pow_div two_ne_zero, ← mul_assoc] at hcast
    exact le_of_mul_le_mul_right hcast (by positivity)
  · cases h

/-- The powers of ten that are exact are kept in a table. -/
theorem isUpTo_powerOfTen :
    ∀ n < 23, isUpTo (10 ^ n) (Json.powerOfTen n).toModel.unpack = true := by
  decide +kernel

theorem le_mul_excess {q : ℚ} (h : 0 ≤ q) : q ≤ q * excess :=
  le_mul_of_one_le_right h (by norm_num [excess])

theorem UpTo.mono {p q : ℚ} {u : UnpackedFloat} (h : UpTo p u) (hle : p ≤ q) : UpTo q u := by
  obtain ⟨hpos, hlow, hhigh, hleast, hgreatest, hvalue⟩ := h
  exact .finite hpos hlow hhigh hleast hgreatest (hvalue.trans hle)

/-- Larger powers of ten are rounded from the whole number. -/
theorem unpack_powerOfTen {n : ℕ} (hexact : ¬ n < 23) (hn : n ≤ 308) :
    (Json.powerOfTen n).toModel.unpack = (Float.Model.pack (roundWithAccuracy Format.binary64
      .positive (2 ^ 53 * 10 ^ n) (-53) .exact)).unpack := by
  have hlarge : ¬ ((n : ℤ) > 2 ^ Format.binary64.exponentBits) := by
    show ¬ ((n : ℤ) > 2 ^ 11)
    omega
  have htiny : ¬ ((n : ℤ) < -((2 ^ Format.binary64.exponentBits : ℤ) + (1 : ℕ).log2)) := by
    show ¬ ((n : ℤ) < -(2 ^ 11 + _))
    omega
  have hslow : ¬ (1 < 2 ^ 53 ∧ n ≤ 22) := fun h => hexact (Nat.lt_succ_of_le h.2)
  have hshift : 2 ^ 53 * 10 ^ n = (1 <<< 53) * 10 ^ n := by rw [Nat.shiftLeft_eq, one_mul]
  unfold Json.powerOfTen Float.ofScientific
  rw [dif_neg hslow]
  show (Float.Model.pack (UnpackedFloat.ofScientific Format.binary64 1 n)).unpack = _
  rw [UnpackedFloat.ofScientific, dif_neg one_ne_zero, if_neg hlarge, if_neg htiny,
    if_pos (Int.natCast_nonneg n), hshift]
  rfl

/-- A power of ten. -/
theorem upTo_powerOfTen {n : ℕ} (hn : n ≤ 308) :
    UpTo (10 ^ n * excess) (Json.powerOfTen n).toModel.unpack := by
  by_cases hexact : n < 23
  · have hupTo := upTo_of_isUpTo (isUpTo_powerOfTen n hexact)
    push_cast at hupTo
    exact hupTo.mono (le_mul_excess (by positivity))
  · have hlow : 2 ^ 53 ≤ 2 ^ 53 * 10 ^ n := Nat.le_mul_of_pos_right _ (by positivity)
    have hlog : 53 ≤ (2 ^ 53 * 10 ^ n).log2 := (Nat.le_log2 (by positivity)).mpr hlow
    have hvalue : ((2 ^ 53 * 10 ^ n : ℕ) : ℚ) * 2 ^ (-53 : ℤ) = 10 ^ n := by
      rw [zpow_neg]
      push_cast
      field_simp
    have hfits : 10 ^ n < (2 ^ 53 - 1) * 2 ^ 971 :=
      (Nat.pow_le_pow_right (by decide) hn).trans_lt (by decide +kernel)
    have hsmall := lt_greatest hfits
    push_cast at hsmall
    have hupTo := upTo_round (le_trans (by decide) hlow) (by omega) hvalue.le hsmall
    rw [unpack_powerOfTen hexact hn, hupTo.unpack_pack]
    exact hupTo

theorem UpTo.isInf_eq {x : Float} {q : ℚ} (h : UpTo q x.toModel.unpack) : x.isInf = false := by
  show x.toModel.unpack.isInf = false
  generalize x.toModel.unpack = u at h
  cases h
  rfl

/-- A product up to here is finite even if all roundings are upwards. -/
def assured : ℚ := (2 ^ 53 - 6) * 2 ^ (971 : ℤ)

theorem assured_lt : assured < 10 ^ 309 := by
  have hnatural : (2 ^ 53 - 6) * 2 ^ 971 < 10 ^ 309 := by decide +kernel
  have hcast : (2 : ℚ) ^ 53 - 6 = (2 ^ 53 - 6 : ℕ) := by norm_num
  rw [assured, hcast]
  exact_mod_cast hnatural

/-- A significand times a power of ten is infinite only if it is large. -/
theorem isInf_scaled {s : UInt64} {n : ℕ} (hn : n ≤ 308)
    (hsmall : (s.toNat : ℚ) * 10 ^ n ≤ assured) :
    (s.toFloat * Json.powerOfTen n).isInf = false := by
  have hpower := upTo_powerOfTen hn
  by_cases hs : s = 0
  · subst hs
    have hzero : (0 : UInt64).toFloat.toModel.unpack = .zero .positive := rfl
    show (Float.Model.pack (UnpackedFloat.mul Format.binary64 _ _)).unpack.isInf = false
    rw [hzero]
    generalize (Json.powerOfTen n).toModel.unpack = u at hpower
    cases hpower
    have hnothing : (Float.Model.pack (.zero .positive)).unpack.isInf = false := rfl
    exact hnothing
  · have hproduct : (s.toNat : ℚ) * excess * (10 ^ n * excess) < greatest := by
      have hunit : (0 : ℚ) < 2 ^ (971 : ℤ) := by positivity
      have hexcess : (2 ^ 53 - 6 : ℚ) * (excess * excess) < 2 ^ 53 - 1 := by norm_num [excess]
      calc (s.toNat : ℚ) * excess * (10 ^ n * excess)
          = s.toNat * 10 ^ n * (excess * excess) := by ring
        _ ≤ assured * (excess * excess) :=
            mul_le_mul_of_nonneg_right hsmall (by norm_num [excess])
        _ = (2 ^ 53 - 6) * (excess * excess) * 2 ^ (971 : ℤ) := by
            rw [assured]
            ring
        _ < greatest := mul_lt_mul_of_pos_right hexcess hunit
    exact (upTo_mul (upTo_toFloat hs) hpower hproduct).isInf_eq

end UserAccounts.Double
