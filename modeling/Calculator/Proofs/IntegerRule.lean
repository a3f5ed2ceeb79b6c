import Mathlib.Algebra.Order.Field.Power
import Mathlib.Algebra.Order.Ring.Rat
import Mathlib.Data.Int.Cast.Lemmas
import Calculator.Proofs.LooseIntegers

/-!
# The rule for integer fields

An integer field takes integers, truth values, floating-point numbers without a fraction and texts that denote an
integer. Floating-point numbers from `2 ^ 63` on are refused, and so are texts with more than 4300 digits. The rule
says one thing of every value, and the readers follow it, except for texts with zeros in front that denote no integer.
-/

namespace Calculator

theorem powTwo_pos (e : Nat) : 0 < powTwo e := Nat.pow_pos (by decide)

namespace Binary64

def IsFinite : Binary64 → Prop
  | .finite .. => True
  | .infinite _ | .notANumber => False

/-- A number that is equal to an integer. -/
def Denotes (x : Binary64) (n : Int) : Prop :=
  ∃ significand exponent : Int, x = .finite significand exponent ∧ (significand : ℚ) * 2 ^ exponent = n

theorem denotes_finite_iff {m e n : Int} : Denotes (.finite m e) n ↔ (m : ℚ) * 2 ^ e = n := by
  constructor
  · rintro ⟨m', e', heq, h⟩
    cases heq
    exact h
  · exact fun h => ⟨m, e, rfl, h⟩

theorem denotes_ofNat_iff {m n : Int} {e : Nat} : Denotes (.finite m (.ofNat e)) n ↔ m * powTwo e = n := by
  have hscaled : (m : ℚ) * 2 ^ Int.ofNat e = (m * powTwo e : Int) := by
    rw [Int.ofNat_eq_natCast, zpow_natCast]
    push_cast [powTwo, Nat.pow_eq]
    rfl
  rw [denotes_finite_iff, hscaled, Int.cast_inj]

theorem denotes_negSucc_iff {m n : Int} {e : Nat} :
    Denotes (.finite m (.negSucc e)) n ↔ m = n * powTwo (e + 1) := by
  have hscaled : (m : ℚ) * 2 ^ Int.negSucc e = m / (powTwo (e + 1) : Int) := by
    rw [zpow_negSucc, div_eq_mul_inv]
    push_cast [powTwo, Nat.pow_eq]
    rfl
  have hpos : ((powTwo (e + 1) : Int) : ℚ) ≠ 0 := by exact_mod_cast (powTwo_pos (e + 1)).ne'
  rw [denotes_finite_iff, hscaled, div_eq_iff hpos]
  exact_mod_cast Iff.rfl

theorem toInt_of_denotes {x : Binary64} {n : Int} (h : x.Denotes n) : x.toInt = bounded n := by
  obtain ⟨m, e, rfl, -⟩ := id h
  cases e with
  | ofNat e => rw [toInt, denotes_ofNat_iff.mp h]
  | negSucc e =>
    have hpos : (powTwo (e + 1) : Int) ≠ 0 := by exact_mod_cast (powTwo_pos (e + 1)).ne'
    rw [denotes_negSucc_iff.mp h, toInt, if_pos (Int.mul_emod_left n _), Int.mul_ediv_cancel n hpos]

theorem toInt_of_not_denotes {x : Binary64} (hfinite : x.IsFinite) (h : ∀ n, ¬x.Denotes n) :
    x.toInt = .error .fractional := by
  cases x with
  | finite m e =>
    cases e with
    | ofNat e => exact absurd (denotes_ofNat_iff.mpr rfl) (h _)
    | negSucc e =>
      refine if_neg fun hmod => h (m / powTwo (e + 1)) (denotes_negSucc_iff.mpr ?_)
      exact (Int.ediv_mul_cancel (Int.dvd_of_emod_eq_zero hmod)).symm
  | infinite negative => exact absurd hfinite id
  | notANumber => exact absurd hfinite id

theorem toInt_of_not_isFinite {x : Binary64} (h : ¬x.IsFinite) : x.toInt = .error .notFinite := by
  cases x with
  | finite m e => exact absurd trivial h
  | infinite negative => rfl
  | notANumber => rfl

end Binary64

/-- What an integer field makes of a value: an integer, or the problem that it reports. A number that is equal to an
integer is taken below `2 ^ 63`, and a text that denotes one below `10 ^ 4300`. -/
inductive IntegerRule : Value → Except Problem Int → Prop where
  | integer (n : Int) : IntegerRule (.integer n) (.ok n)
  | truth : IntegerRule (.bool true) (.ok 1)
  | falsity : IntegerRule (.bool false) (.ok 0)
  | whole {x : Binary64} {n : Int} (h : x.Denotes n) (hn : n.natAbs < 9223372036854775808) :
      IntegerRule (.float x) (.ok n)
  | wide {x : Binary64} {n : Int} (h : x.Denotes n) (hn : 9223372036854775808 ≤ n.natAbs) :
      IntegerRule (.float x) (.error .oversized)
  | fractional {x : Binary64} (hfinite : x.IsFinite) (h : ∀ n, ¬x.Denotes n) :
      IntegerRule (.float x) (.error .fractional)
  | notFinite {x : Binary64} (h : ¬x.IsFinite) : IntegerRule (.float x) (.error .notFinite)
  | text {s : String} {n : Int} (h : IsIntegerText s.toList n) (hn : n.natAbs < 10 ^ LooseInteger.maxDigits) :
      IntegerRule (.text s) (.ok n)
  | long {s : String} (h : LooseInteger.StartsTooLong s.toList) : IntegerRule (.text s) (.error .oversized)
  | unreadable {s : String} (hlong : ¬LooseInteger.StartsTooLong s.toList)
      (h : ∀ n, IsIntegerText s.toList n → 10 ^ LooseInteger.maxDigits ≤ n.natAbs) :
      IntegerRule (.text s) (.error .unreadableInteger)
  | null : IntegerRule .null (.error .notInteger)
  | list (items : List Value) : IntegerRule (.list items) (.error .notInteger)
  | object (fields : Fields) : IntegerRule (.object fields) (.error .notInteger)

/-- Values that are read by the rule. Of the texts with zeros in front these are the ones that denote an integer. -/
def Value.Regular : Value → Prop
  | .text s => (∃ n, IsIntegerText s.toList n) ∨ LooseInteger.StartsWithoutZero s.toList
  | .null | .bool _ | .integer _ | .float _ | .list _ | .object _ => True

theorem Binary64.bounded_of_lt {n : Int} (h : n.natAbs < 9223372036854775808) : bounded n = .ok n := if_pos h

theorem Binary64.bounded_of_le {n : Int} (h : 9223372036854775808 ≤ n.natAbs) : bounded n = .error .oversized :=
  if_neg (Nat.not_lt.mpr h)

theorem LooseInteger.read_of_startsTooLong {s : String} (h : StartsTooLong s.toList)
    (hregular : (Value.text s).Regular) : read s = .error .oversized := by
  rw [read_of_not_isIntegerText hregular fun n hn => h.le_natAbs hn, if_pos (isOversized_iff.mpr h)]

theorem LooseInteger.read_of_unreadable {s : String} (hlong : ¬StartsTooLong s.toList)
    (h : ∀ n, IsIntegerText s.toList n → 10 ^ maxDigits ≤ n.natAbs) (hregular : (Value.text s).Regular) :
    read s = .error .unreadableInteger := by
  rw [read_of_not_isIntegerText hregular h, if_neg (mt isOversized_iff.mp hlong)]

/-- What the rule says of a value that it covers is what the readers answer. -/
theorem IntegerRule.asInt_eq {v : Value} {r : Except Problem Int} (h : IntegerRule v r) (hv : v.Regular) :
    v.asInt = r := by
  cases h with
  | integer n => rfl
  | truth => rfl
  | falsity => rfl
  | null => rfl
  | list items => rfl
  | object fields => rfl
  | whole h hn => exact (Binary64.toInt_of_denotes h).trans (Binary64.bounded_of_lt hn)
  | wide h hn => exact (Binary64.toInt_of_denotes h).trans (Binary64.bounded_of_le hn)
  | fractional hfinite h => exact Binary64.toInt_of_not_denotes hfinite h
  | notFinite h => exact Binary64.toInt_of_not_isFinite h
  | text h hn => exact LooseInteger.read_of_isIntegerText h hn
  | long h => exact LooseInteger.read_of_startsTooLong h hv
  | unreadable hlong h => exact LooseInteger.read_of_unreadable hlong h hv

theorem Binary64.exists_integerRule (x : Binary64) : ∃ r, IntegerRule (.float x) r := by
  by_cases hfinite : x.IsFinite
  · by_cases hdenotes : ∃ n, x.Denotes n
    · obtain ⟨n, hn⟩ := hdenotes
      rcases Nat.lt_or_ge n.natAbs 9223372036854775808 with hlt | hge
      · exact ⟨_, .whole hn hlt⟩
      · exact ⟨_, .wide hn hge⟩
    · exact ⟨_, .fractional hfinite (not_exists.mp hdenotes)⟩
  · exact ⟨_, .notFinite hfinite⟩

theorem LooseInteger.exists_integerRule (s : String) : ∃ r, IntegerRule (.text s) r := by
  by_cases hlong : StartsTooLong s.toList
  · exact ⟨_, .long hlong⟩
  · by_cases hdenotes : ∃ n, IsIntegerText s.toList n ∧ n.natAbs < 10 ^ maxDigits
    · obtain ⟨n, hn, hlt⟩ := hdenotes
      exact ⟨_, .text hn hlt⟩
    · refine ⟨_, .unreadable hlong fun n hn => Nat.not_lt.mp fun hlt => hdenotes ⟨n, hn, hlt⟩⟩

/-- The rule says something of every value. -/
theorem Value.exists_integerRule (v : Value) : ∃ r, IntegerRule v r := by
  cases v with
  | null => exact ⟨_, .null⟩
  | bool b =>
    cases b with
    | false => exact ⟨_, .falsity⟩
    | true => exact ⟨_, .truth⟩
  | integer n => exact ⟨_, .integer n⟩
  | float x => exact x.exists_integerRule
  | text s => exact LooseInteger.exists_integerRule s
  | list items => exact ⟨_, .list items⟩
  | object fields => exact ⟨_, .object fields⟩

/-- The readers follow the rule. -/
theorem Value.Regular.integerRule_iff {v : Value} (h : v.Regular) {r : Except Problem Int} :
    IntegerRule v r ↔ v.asInt = r := by
  refine ⟨fun hr => hr.asInt_eq h, ?_⟩
  rintro rfl
  obtain ⟨r, hr⟩ := v.exists_integerRule
  rwa [hr.asInt_eq h]

theorem natAbs_lt_of_inRange {n : Int} (h : InRange n) : n.natAbs < 10 ^ LooseInteger.maxDigits := by
  rw [inRange_iff] at h
  calc n.natAbs
      < 10 ^ 19 := by omega
    _ ≤ 10 ^ LooseInteger.maxDigits := Nat.pow_le_pow_right (by decide) (by decide)

theorem isIntegerText_text (w : Word) : IsIntegerText w.text.toList w.value := by
  have htext := IsIntegerText.of_signedDigits (isSignedDigits_toString w.value)
  rwa [value_toDigits] at htext

/-- The text of a word is read as the word. -/
theorem LooseInteger.read_text (w : Word) : read w.text = .ok w.value :=
  read_of_isIntegerText (isIntegerText_text w) (natAbs_lt_of_inRange w.inRange)

/-- A value that stands for a word as an integer or in print. -/
def Value.Spells (v : Value) (w : Word) : Prop := v = .integer w.value ∨ v = .text w.text

theorem Value.Spells.asInt_eq {v : Value} {w : Word} (h : v.Spells w) : v.asInt = .ok w.value := by
  rcases h with rfl | rfl
  · rfl
  · exact LooseInteger.read_text w

end Calculator
