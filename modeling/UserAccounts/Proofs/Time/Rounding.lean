import Mathlib
import UserAccounts.Time.Timing

/-!
# Rounding to milliseconds

A span is rounded by way of its whole microseconds, which cuts a fraction off twice. Both cuts
together are one (`Span.rounded_eq`): the result is the nearest number of milliseconds, half of one
upwards, up to the largest number of 64 bits. So rounding keeps the order of spans and changes no
span that has been rounded, and the milliseconds of such a span are counted without loss.

A duration has 64 bits for its seconds and less than a second beyond them. Its microseconds are
counted in 128 bits (`Span.microsInWords`), which is more than enough for the sum with half a
millisecond, and what comes out is a duration again (`Span.rounded_nearest`).
-/

namespace UserAccounts

namespace Span

/-! ## Both cuts together -/

/-- Cutting to microseconds before rounding to milliseconds loses nothing that matters. -/
theorem div_add_half (n : Nat) : (n / 1000 + 500) / 1000 = (n + 500000) / 1000000 := by
  have hsum : n / 1000 + 500 = (n + 500 * 1000) / 1000 :=
    (Nat.add_mul_div_right n 500 (by decide)).symm
  rw [hsum, Nat.div_div_eq_div_mul]

theorem rounded_eq (d : Span) :
    d.rounded = ofMillis (min ((d.nanos + 500000) / 1000000) Text.maxUnsigned64) := by
  unfold rounded wholeMicros microsecond
  rw [div_add_half]

theorem rounded_mono {d e : Span} (h : d.nanos ≤ e.nanos) : d.rounded.nanos ≤ e.rounded.nanos := by
  have hquotient : (d.nanos + 500000) / 1000000 ≤ (e.nanos + 500000) / 1000000 :=
    Nat.div_le_div_right (Nat.add_le_add_right h _)
  rw [rounded_eq d, rounded_eq e]
  exact Nat.mul_le_mul_right _ (min_le_min_right _ hquotient)

/-! ## Whole milliseconds -/

section Millis

variable {millis : Nat}

theorem rounded_ofMillis (h : millis ≤ Text.maxUnsigned64) :
    (ofMillis millis).rounded = ofMillis millis := by
  have hquotient : (millis * 1000000 + 500000) / 1000000 = millis := by omega
  rw [rounded_eq, nanos_ofMillis, millisecond, hquotient, min_eq_left h]

theorem wholeMillis_ofMillis (h : millis ≤ Text.maxUnsigned64) :
    (ofMillis millis).wholeMillis = millis := by
  unfold wholeMillis
  rw [nanos_ofMillis, Nat.mul_div_cancel _ (by decide), min_eq_left h]

/-- Milliseconds that fit 64 bits are a duration. -/
theorem ofMillis_eq_ofParts (h : millis ≤ Text.maxUnsigned64) :
    ∃ (seconds : UInt64) (nanos : Nat), nanos < second ∧
      ofMillis millis = ofParts seconds.toNat nanos := by
  have hmax : Text.maxUnsigned64 = 2 ^ 64 - 1 := rfl
  have hsize : UInt64.size = 2 ^ 64 := rfl
  have hseconds : (UInt64.ofNat (millis / 1000)).toNat = millis / 1000 :=
    UInt64.toNat_ofNat_of_lt' (by omega)
  refine ⟨.ofNat (millis / 1000), millis % 1000 * millisecond, ?_, ?_⟩
  · unfold millisecond second
    omega
  · rw [hseconds]
    unfold ofMillis ofParts millisecond second
    exact congrArg Span.mk (by omega)

end Millis

/-! ## The nearest millisecond -/

/-- A number of whole milliseconds that is nearest to a span; of two that are equally near, the
larger one. -/
structure IsNearest (d r : Span) : Prop where
  whole : ∃ millis, r = ofMillis millis
  above : r.nanos ≤ d.nanos + 500000
  below : d.nanos < r.nanos + 500000

/-- There is one nearest number of milliseconds. -/
theorem isNearest_iff {d r : Span} :
    d.IsNearest r ↔ r = ofMillis ((d.nanos + 500000) / 1000000) := by
  constructor
  · rintro ⟨⟨millis, rfl⟩, habove, hbelow⟩
    rw [nanos_ofMillis, millisecond] at habove hbelow
    exact congrArg ofMillis (by omega)
  · rintro rfl
    refine ⟨⟨_, rfl⟩, ?_, ?_⟩ <;> rw [nanos_ofMillis, millisecond] <;> omega

/-! ## Durations -/

/-- The whole microseconds of a duration in a word of 128 bits. -/
def microsInWords (seconds : UInt64) (nanos : Nat) : BitVec 128 :=
  seconds.toBitVec.setWidth 128 * 1000000#128 + BitVec.ofNat 128 (nanos / 1000)

theorem wholeMicros_ofParts (seconds nanos : Nat) :
    (ofParts seconds nanos).wholeMicros = seconds * 1000000 + nanos / 1000 := by
  show (seconds * 1000000000 + nanos) / 1000 = _
  omega

theorem micros_lt {seconds micros : Nat} (hseconds : seconds < 2 ^ 64)
    (hmicros : micros < 1000000) : seconds * 1000000 + micros + 500 < 2 ^ 128 := by
  omega

/-- The microseconds of a duration do not overflow, and neither does adding half a millisecond. -/
theorem toNat_microsInWords {seconds : UInt64} {nanos : Nat} (h : nanos < second) :
    (microsInWords seconds nanos).toNat = (ofParts seconds.toNat nanos).wholeMicros ∧
      (microsInWords seconds nanos + 500#128).toNat =
        (ofParts seconds.toNat nanos).wholeMicros + 500 := by
  have hhalf : seconds.toNat * 1000000 + nanos / 1000 + 500 < 2 ^ 128 :=
    micros_lt seconds.toNat_lt (Nat.div_lt_of_lt_mul h)
  have hsum := (Nat.le_add_right _ 500).trans_lt hhalf
  have hproduct := (Nat.le_add_right _ _).trans_lt hsum
  have hpart := (Nat.le_add_left _ _).trans_lt hsum
  have hwide := (Nat.le_mul_of_pos_right _ (by decide)).trans_lt hproduct
  have hfactor : (1000000#128).toNat = 1000000 := by simp
  have hadded : (500#128).toNat = 500 := by simp
  have hmicros : (microsInWords seconds nanos).toNat = seconds.toNat * 1000000 + nanos / 1000 := by
    rw [microsInWords, BitVec.toNat_add, BitVec.toNat_mul, BitVec.toNat_setWidth,
      UInt64.toNat_toBitVec, hfactor, BitVec.toNat_ofNat, Nat.mod_eq_of_lt hwide,
      Nat.mod_eq_of_lt hproduct, Nat.mod_eq_of_lt hpart, Nat.mod_eq_of_lt hsum]
  rw [wholeMicros_ofParts, BitVec.toNat_add, hmicros, hadded]
  exact ⟨rfl, Nat.mod_eq_of_lt hhalf⟩

/-- A duration is rounded to the nearest number of milliseconds, half of one upwards, as long as 64
bits hold that number, and to the largest one of 64 bits beyond. Nothing overflows on the way, and
the result is a duration. Rounding keeps the order of durations, rounding again changes nothing, and
the milliseconds that are counted of the result are all of it. -/
theorem rounded_nearest (seconds : UInt64) {nanos : Nat} (h : nanos < second) :
    let d := ofParts seconds.toNat nanos
    let total := seconds.toNat * 1000000000 + nanos
    let millis := min ((total + 500000) / 1000000) (2 ^ 64 - 1)
    ((microsInWords seconds nanos).toNat = d.wholeMicros ∧
      (microsInWords seconds nanos + 500#128).toNat = d.wholeMicros + 500) ∧
    d.rounded = ofMillis millis ∧
    (∃ (seconds' : UInt64) (nanos' : Nat), nanos' < second ∧
      d.rounded = ofParts seconds'.toNat nanos') ∧
    (total + 500000 < 2 ^ 64 * 1000000 → ∀ r, d.IsNearest r ↔ r = d.rounded) ∧
    (∀ (seconds' : UInt64) (nanos' : Nat), nanos' < second →
      let e := ofParts seconds'.toNat nanos'
      d.nanos ≤ e.nanos → d.rounded.nanos ≤ e.rounded.nanos) ∧
    d.rounded.rounded = d.rounded ∧
    ∀ start stop, (Timing.mk start stop d.rounded).elapsedMillis = millis := by
  intro d total millis
  have hrounded : d.rounded = ofMillis millis := d.rounded_eq
  have hmillis : millis ≤ Text.maxUnsigned64 := min_le_right _ _
  refine ⟨toNat_microsInWords h, hrounded, ?_, ?_, fun _ _ _ hle => rounded_mono hle, ?_, ?_⟩
  · rw [hrounded]
    exact ofMillis_eq_ofParts hmillis
  · intro hfits r
    have hsmall : millis = (total + 500000) / 1000000 := min_eq_left (by omega)
    rw [hrounded, hsmall]
    exact isNearest_iff
  · rw [hrounded, rounded_ofMillis hmillis]
  · intro start stop
    show d.rounded.wholeMillis = millis
    rw [hrounded, wholeMillis_ofMillis hmillis]

/-- Half of a millisecond, which only just makes the largest number that 64 bits hold. -/
theorem rounded_nearest_of_half :
    614500000 < second ∧
      (ofParts 18446744073709551 614499999).rounded = ofMillis (2 ^ 64 - 2) ∧
      (ofParts 18446744073709551 614500000).rounded = ofMillis (2 ^ 64 - 1) := by
  have hhalf : 614500000 < second := by decide
  have hless : 614499999 < second := by decide
  have hseconds : (18446744073709551 : UInt64).toNat = 18446744073709551 := by decide
  have hrounded := (rounded_nearest 18446744073709551 hhalf).2.1
  have hrounded' := (rounded_nearest 18446744073709551 hless).2.1
  rw [hseconds] at hrounded hrounded'
  refine ⟨hhalf, hrounded'.trans (congrArg ofMillis ?_), hrounded.trans (congrArg ofMillis ?_)⟩
  all_goals norm_num

end Span

end UserAccounts
