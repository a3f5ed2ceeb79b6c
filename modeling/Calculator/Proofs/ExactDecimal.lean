import Mathlib.Algebra.Order.Field.Power
import Mathlib.Algebra.Order.Ring.Rat
import Mathlib.Tactic.Linarith
import Mathlib.Tactic.FieldSimp
import Mathlib.Tactic.Ring
import Mathlib.Tactic.Positivity
import Calculator.Token

/-!
# Decimals as rational numbers

A decimal denotes exactly what its numeral denotes, and the comparison that looks at the place of the leading digit
first is the comparison of rationals.
-/

namespace Calculator

theorem digitCount_pos (n : Nat) : 0 < digitCount n := Nat.length_toDigits_pos

theorem digitCount_le_iff {n k : Nat} (h : 0 < k) : digitCount n ≤ k ↔ n < 10 ^ k :=
  Nat.length_toDigits_le_iff (by decide) h

theorem lt_pow_digitCount (n : Nat) : n < 10 ^ digitCount n :=
  (digitCount_le_iff (digitCount_pos n)).mp (Nat.le_refl _)

theorem pow_digitCount_le {n : Nat} (h : n ≠ 0) : 10 ^ (digitCount n - 1) ≤ n := by
  by_cases hone : digitCount n = 1
  · rw [hone]
    exact Nat.one_le_iff_ne_zero.mpr h
  · have hpos := digitCount_pos n
    have hshort : ¬digitCount n ≤ digitCount n - 1 := by omega
    rw [digitCount_le_iff (by omega)] at hshort
    exact Nat.le_of_not_lt hshort

/-- A rational number in the range of a word. -/
def FitsWord (q : ℚ) : Prop := -2 ^ 63 ≤ q ∧ q ≤ 2 ^ 63 - 1

theorem fitsWord_intCast (v : Int) : FitsWord v ↔ InRange v := by
  rw [FitsWord, inRange_iff]
  constructor
  · rintro ⟨hlow, hhigh⟩
    exact ⟨by exact_mod_cast hlow, by exact_mod_cast hhigh⟩
  · rintro ⟨hlow, hhigh⟩
    exact ⟨by exact_mod_cast hlow, by exact_mod_cast hhigh⟩

namespace Decimal

/-- The number without its sign. -/
def magnitude (d : Decimal) : ℚ := d.coefficient * 10 ^ d.exponent

/-- The number that a decimal denotes. -/
def value (d : Decimal) : ℚ := if d.negative then -d.magnitude else d.magnitude

theorem magnitude_nonneg (d : Decimal) : 0 ≤ d.magnitude := by
  unfold magnitude
  positivity

theorem magnitude_of_zero {d : Decimal} (h : d.coefficient = 0) : d.magnitude = 0 := by
  simp [magnitude, h]

theorem magnitude_lt (d : Decimal) : d.magnitude < 10 ^ d.place := by
  have hcount : (d.coefficient : ℚ) < 10 ^ digitCount d.coefficient := by
    exact_mod_cast lt_pow_digitCount d.coefficient
  have hpos : (0 : ℚ) < 10 ^ d.exponent := by positivity
  rw [place, zpow_add₀ (by norm_num), zpow_natCast]
  exact mul_lt_mul_of_pos_right hcount hpos

theorem le_magnitude {d : Decimal} (h : d.coefficient ≠ 0) : 10 ^ (d.place - 1) ≤ d.magnitude := by
  have hcount : (10 : ℚ) ^ (digitCount d.coefficient - 1) ≤ d.coefficient := by
    exact_mod_cast pow_digitCount_le h
  have hpos : (0 : ℚ) < 10 ^ d.exponent := by positivity
  have hplace : d.place - 1 = ((digitCount d.coefficient - 1 : Nat) : Int) + d.exponent := by
    have := digitCount_pos d.coefficient
    unfold place
    omega
  rw [hplace, zpow_add₀ (by norm_num), zpow_natCast]
  exact mul_le_mul_of_nonneg_right hcount hpos.le

/-- A number with its leading digit in a lower place than a bound has is smaller. -/
theorem magnitude_le_of_place_lt {d : Decimal} {n : Nat} (hn : n ≠ 0) (h : d.place < digitCount n) :
    d.magnitude ≤ n := by
  have hbound : (10 : ℚ) ^ (digitCount n - 1) ≤ n := by exact_mod_cast pow_digitCount_le hn
  rw [← zpow_natCast] at hbound
  calc d.magnitude ≤ 10 ^ d.place := d.magnitude_lt.le
    _ ≤ 10 ^ ((digitCount n - 1 : Nat) : Int) := zpow_le_zpow_right₀ (by norm_num) (by omega)
    _ ≤ n := hbound

/-- A number with its leading digit in a higher place than a bound has is larger. -/
theorem lt_magnitude_of_lt_place {d : Decimal} {n : Nat} (hd : d.coefficient ≠ 0)
    (h : digitCount n < d.place) : n < d.magnitude := by
  have hbound : (n : ℚ) < 10 ^ digitCount n := by exact_mod_cast lt_pow_digitCount n
  rw [← zpow_natCast] at hbound
  calc (n : ℚ) < 10 ^ (digitCount n : Int) := hbound
    _ ≤ 10 ^ (d.place - 1) := zpow_le_zpow_right₀ (by norm_num) (by omega)
    _ ≤ d.magnitude := le_magnitude hd

theorem magnitude_le_iff_of_ofNat {d : Decimal} {e : Nat} (h : d.exponent = .ofNat e) (n : Nat) :
    d.magnitude ≤ n ↔ d.coefficient * powTen e ≤ n := by
  have hscaled : d.magnitude = (d.coefficient * 10 ^ e : Nat) := by
    rw [magnitude, h, Int.ofNat_eq_natCast, zpow_natCast]
    push_cast
    rfl
  rw [hscaled, Nat.cast_le]
  rfl

theorem magnitude_le_iff_of_negSucc {d : Decimal} {e : Nat} (h : d.exponent = .negSucc e) (n : Nat) :
    d.magnitude ≤ n ↔ d.coefficient ≤ n * powTen (e + 1) := by
  have hscaled : d.magnitude ≤ n ↔ (d.coefficient : ℚ) ≤ (n * 10 ^ (e + 1) : Nat) := by
    rw [magnitude, h, zpow_negSucc, ← div_eq_mul_inv, div_le_iff₀ (by positivity)]
    push_cast
    rfl
  rw [hscaled, Nat.cast_le]
  rfl

/-- The comparison that looks at the leading digits first is the comparison of rationals. -/
theorem magnitudeLe_iff (d : Decimal) (n : Nat) : d.magnitudeLe n = true ↔ d.magnitude ≤ n := by
  unfold magnitudeLe
  by_cases hzero : d.coefficient = 0
  · simp [hzero, magnitude_of_zero hzero]
  rw [if_neg hzero]
  by_cases hn : n = 0
  · have hpos : (0 : ℚ) < 10 ^ (d.place - 1) := by positivity
    simp only [hn, if_true, Bool.false_eq_true, Nat.cast_zero, false_iff, not_le]
    exact hpos.trans_le (le_magnitude hzero)
  rw [if_neg hn]
  by_cases hless : d.place < digitCount n
  · simp only [if_pos hless, true_iff]
    exact magnitude_le_of_place_lt hn hless
  rw [if_neg hless]
  by_cases hmore : digitCount n < d.place
  · simp only [if_pos hmore, Bool.false_eq_true, false_iff, not_le]
    exact lt_magnitude_of_lt_place hzero hmore
  rw [if_neg hmore]
  cases he : d.exponent with
  | ofNat e => rw [magnitude_le_iff_of_ofNat he, decide_eq_true_iff]
  | negSucc e => rw [magnitude_le_iff_of_negSucc he, decide_eq_true_iff]

theorem inRange_iff (d : Decimal) : d.inRange = true ↔ FitsWord d.value := by
  have hnonneg := d.magnitude_nonneg
  unfold inRange FitsWord value
  rw [magnitudeLe_iff]
  cases d.negative with
  | true =>
    have hmin : ((minWord.natAbs : Nat) : ℚ) = 2 ^ 63 := by norm_num [minWord]
    simp only [if_true, hmin]
    constructor
    · intro h
      constructor <;> linarith
    · rintro ⟨h, -⟩
      linarith
  | false =>
    have hmax : ((maxWord.natAbs : Nat) : ℚ) = 2 ^ 63 - 1 := by norm_num [maxWord]
    simp only [Bool.false_eq_true, if_false, hmax]
    constructor
    · intro h
      constructor <;> linarith
    · rintro ⟨-, h⟩
      exact h

theorem inRange_of_zero {d : Decimal} (h : d.coefficient = 0) : d.inRange = true := by
  simp [inRange, magnitudeLe, h]

/-- Both ends of the range have nineteen digits. -/
theorem digitCount_limit (d : Decimal) :
    digitCount (if d.negative then minWord.natAbs else maxWord.natAbs) = 19 := by
  cases d.negative <;> decide

theorem inRange_of_place_lt {d : Decimal} (h : d.place < 19) : d.inRange = true := by
  have hlimit : (if d.negative then minWord.natAbs else maxWord.natAbs) ≠ 0 := by
    cases d.negative <;> decide
  refine (d.magnitudeLe_iff _).mpr (magnitude_le_of_place_lt hlimit ?_)
  rw [d.digitCount_limit]
  exact h

theorem inRange_of_lt_place {d : Decimal} (hd : d.coefficient ≠ 0) (h : 19 < d.place) :
    d.inRange = false := by
  rw [← Bool.not_eq_true, inRange, magnitudeLe_iff, not_le]
  refine lt_magnitude_of_lt_place hd ?_
  rw [d.digitCount_limit]
  exact h

end Decimal

namespace Numeral

/-- The number that a numeral denotes. -/
def value (n : Numeral) : ℚ :=
  (if n.negative then -1 else 1) *
    (Nat.ofDigitChars 10 n.whole 0 + Nat.ofDigitChars 10 n.fraction 0 / 10 ^ n.fraction.length) *
    10 ^ n.exponent.value

theorem value_decimal (n : Numeral) : n.decimal.value = n.value := by
  have hmantissa : Nat.ofDigitChars 10 n.mantissa 0 =
      10 ^ n.fraction.length * Nat.ofDigitChars 10 n.whole 0 + Nat.ofDigitChars 10 n.fraction 0 := by
    rw [mantissa, Nat.ofDigitChars_append, Nat.ofDigitChars_eq_ofDigitChars_zero]
  have hscale : n.decimal.magnitude =
      (Nat.ofDigitChars 10 n.whole 0 + Nat.ofDigitChars 10 n.fraction 0 / 10 ^ n.fraction.length) *
        10 ^ n.exponent.value := by
    simp only [Decimal.magnitude, decimal, hmantissa]
    rw [zpow_sub₀ (by norm_num), zpow_natCast]
    push_cast
    field_simp
  have hsign : n.decimal.negative = n.negative := rfl
  unfold Decimal.value value
  rw [hscale, hsign]
  by_cases hnegative : n.negative = true
  · rw [if_pos hnegative, if_pos hnegative]
    ring
  · rw [if_neg hnegative, if_neg hnegative]
    ring

end Numeral

end Calculator
