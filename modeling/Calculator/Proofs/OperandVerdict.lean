import Calculator.Proofs.DigitValues
import Calculator.Proofs.ExactDecimal

/-!
# The check of an operand against exact arithmetic

The operand check says what exact rational arithmetic says. A numeral with an exponent beyond the limits is never
converted, but where its leading digit stands is known all the same, and so is its verdict.
-/

namespace Calculator

/-- The verdict on a token, from the number that it denotes and the form in which it is written. -/
inductive OperandVerdict (token : String) : Except CalcError Word → Prop where
  | unreal (hform : ∀ n, ¬IsNumeral token.toList n) :
      OperandVerdict token (.error (.invalidNumber token))
  | outside {n : Numeral} (hform : IsNumeral token.toList n) (hvalue : ¬FitsWord n.value) :
      OperandVerdict token (.error (.numberOverflow token))
  | notInteger {n : Numeral} (hform : IsNumeral token.toList n) (hvalue : FitsWord n.value)
      (hinteger : ∀ d, ¬IsSignedDigits token.toList d) :
      OperandVerdict token (.error (.invalidNumber token))
  | integer {n : Numeral} {d : SignedDigits} {w : Word} (hform : IsNumeral token.toList n)
      (hinteger : IsSignedDigits token.toList d) (hvalue : (w.value : ℚ) = n.value) :
      OperandVerdict token (.ok w)

theorem IsMantissa.digits {text w f : List Char} (h : IsMantissa text w f) :
    AreDigits (w ++ f) ∧ w ++ f ≠ [] ∧ (w ++ f).length ≤ text.length := by
  cases h with
  | whole hw hne => simp [hw, hne]
  | point hw hne hf => exact ⟨hw.append hf, by simp [hne], by simp⟩
  | fraction hf hne => exact ⟨hf, hne, by simp⟩

namespace IsNumeral

variable {cs : List Char} {n : Numeral}

theorem areDigits_mantissa (h : IsNumeral cs n) : AreDigits n.mantissa := by
  cases h with
  | mk _ htext _ => exact htext.digits.1

theorem mantissa_ne_nil (h : IsNumeral cs n) : n.mantissa ≠ [] := by
  cases h with
  | mk _ htext _ => exact htext.digits.2.1

theorem length_mantissa_le (h : IsNumeral cs n) : n.mantissa.length ≤ cs.length := by
  cases h with
  | mk _ htext _ =>
    have := htext.digits.2.2
    simp only [Numeral.mantissa, List.length_append] at this ⊢
    omega

theorem areDigits_exponent (h : IsNumeral cs n) : AreDigits n.exponent.digits := by
  cases h with
  | mk _ _ htail =>
    cases htail with
    | absent => simp [AreDigits, Numeral.noExponent]
    | present _ hdigits => exact hdigits.areDigits

theorem unique {m : Numeral} (hn : IsNumeral cs n) (hm : IsNumeral cs m) : n = m := by
  rw [← Numeral.parse?_eq_some_iff] at hn hm
  exact Option.some.inj (hn.symm.trans hm)

end IsNumeral

/-- An integer as a numeral, without fraction and exponent. -/
def SignedDigits.numeral (n : SignedDigits) : Numeral := ⟨n.negative, n.digits, [], Numeral.noExponent⟩

theorem IsSignedDigits.isNumeral {cs : List Char} {d : SignedDigits} (h : IsSignedDigits cs d) :
    IsNumeral cs d.numeral := by
  cases h with
  | mk hsign hdigits hne =>
    have := IsNumeral.mk hsign (.whole hdigits hne) .absent
    rwa [List.append_nil] at this

theorem IsSignedDigits.value_eq {cs : List Char} {n : Numeral} {d : SignedDigits}
    (h : IsSignedDigits cs d) (hn : IsNumeral cs n) : n.value = (d.value : ℚ) := by
  rw [hn.unique h.isNumeral]
  cases hneg : d.negative <;>
    simp [SignedDigits.numeral, Numeral.value, Numeral.noExponent, SignedDigits.value, applySign, hneg,
      Nat.ofDigitChars_cons]

theorem IsSignedDigits.inRange_decimal_iff {cs : List Char} {d : SignedDigits} (h : IsSignedDigits cs d) :
    d.numeral.decimal.inRange = true ↔ InRange d.value := by
  rw [Decimal.inRange_iff, Numeral.value_decimal, h.value_eq h.isNumeral, fitsWord_intCast]

/-- The exponent is too long to be read, or the number does not fit the limits of a decimal. -/
def Numeral.Extreme (n : Numeral) : Prop :=
  maxExponentDigits < n.exponent.significant.length ∨ ¬n.decimal.Representable

section Extreme

variable {token : String} {n : Numeral}

/-- The coefficient of a token is no longer than the token. -/
theorem IsNumeral.digitCount_le (h : IsNumeral token.toList n) :
    digitCount n.decimal.coefficient ≤ token.length := by
  have hpos := List.length_pos_iff.mpr h.mantissa_ne_nil
  have hlt := ofDigitChars_lt h.areDigits_mantissa
  have hcount := (digitCount_le_iff hpos).mpr hlt
  exact Nat.le_trans hcount h.length_mantissa_le

theorem IsNumeral.length_fraction_le (h : IsNumeral token.toList n) :
    n.fraction.length ≤ token.length := by
  have := h.length_mantissa_le
  simp only [Numeral.mantissa, List.length_append] at this
  have : token.toList.length = token.length := rfl
  omega

/-- A token is too short to make up for an exponent near the limits. -/
theorem IsNumeral.exponent_of_extreme (h : IsNumeral token.toList n) (hlen : token.length < 10 ^ 17)
    (hextreme : n.Extreme) : 9 * 10 ^ 17 ≤ n.exponent.value.natAbs := by
  rcases hextreme with hlong | hlimits
  · have hlarge : ¬n.exponent.value.natAbs < 10 ^ maxExponentDigits := by
      rw [← SignedDigits.significant_length_le_iff h.areDigits_exponent]
      omega
    simp only [maxExponentDigits] at hlarge
    omega
  · have hcount := h.digitCount_le
    have hfraction := h.length_fraction_le
    have hexponent : n.decimal.exponent = n.exponent.value - n.fraction.length := rfl
    simp only [Decimal.Representable, Decimal.place, Decimal.maxPrecision, Decimal.minExponent,
      Decimal.maxExponent] at hlimits
    omega

theorem IsSignedDigits.not_extreme {d : SignedDigits} (hd : IsSignedDigits token.toList d)
    (h : IsNumeral token.toList n) (hlen : token.length < 10 ^ 17) : ¬n.Extreme := by
  intro hextreme
  have hfar := h.exponent_of_extreme hlen hextreme
  have hzero : n.exponent.value = 0 := by
    rw [h.unique hd.isNumeral]
    rfl
  omega

/-- The sign of an extreme exponent and a test for zero decide the range as the comparison would. -/
theorem IsNumeral.extremeError_eq (h : IsNumeral token.toList n) (hlen : token.length < 10 ^ 17)
    (hextreme : n.Extreme) :
    n.extremeError token = if n.decimal.inRange then .invalidNumber token else .numberOverflow token := by
  have hfar := h.exponent_of_extreme hlen hextreme
  have hcount := h.digitCount_le
  have hfirst := digitCount_pos n.decimal.coefficient
  have hfraction := h.length_fraction_le
  have hplace : n.decimal.place =
      digitCount n.decimal.coefficient + (n.exponent.value - n.fraction.length) := rfl
  have hzero : n.isZero = true ↔ n.decimal.coefficient = 0 :=
    (ofDigitChars_eq_zero_iff h.areDigits_mantissa).symm
  unfold Numeral.extremeError
  by_cases hnegative : n.exponent.negative = true
  · have hvalue : n.exponent.value ≤ 0 := by simp [SignedDigits.value, applySign, hnegative]
    have hin := Decimal.inRange_of_place_lt (show n.decimal.place < 19 by omega)
    rw [if_pos (.inl hnegative), if_pos hin]
  by_cases hcoefficient : n.decimal.coefficient = 0
  · rw [if_pos (.inr (hzero.mpr hcoefficient)), if_pos (Decimal.inRange_of_zero hcoefficient)]
  · have hvalue : 0 ≤ n.exponent.value := by simp [SignedDigits.value, applySign, hnegative]
    have hout := Decimal.inRange_of_lt_place hcoefficient (show 19 < n.decimal.place by omega)
    have hnot : ¬(n.exponent.negative = true ∨ n.isZero = true) := by
      rw [hzero]
      exact not_or.mpr ⟨hnegative, hcoefficient⟩
    rw [if_neg hnot, hout]
    rfl

end Extreme

theorem readReal_eq {token : String} {n : Numeral} (h : IsNumeral token.toList n) :
    (n.Extreme ∧ readReal token = .error (n.extremeError token)) ∨
      (¬n.Extreme ∧ readReal token = .ok n.decimal) := by
  unfold readReal Numeral.Extreme
  rw [(Numeral.parse?_eq_some_iff _ n).mpr h]
  by_cases hlong : maxExponentDigits < n.exponent.significant.length
  · exact .inl ⟨.inl hlong, if_pos hlong⟩
  by_cases hlimits : n.decimal.Representable
  · refine .inr ⟨by simp [hlong, hlimits], ?_⟩
    simp only [if_neg hlong, if_pos hlimits]
  · refine .inl ⟨.inr hlimits, ?_⟩
    simp only [if_neg hlong, if_neg hlimits]

/-- However a numeral is read, its range decides first and its form second. -/
theorem checkOperand_of_isNumeral {token : String} {n : Numeral} (h : IsNumeral token.toList n)
    (hlen : token.length < 10 ^ 17) :
    checkOperand token =
      if n.decimal.inRange then
        match classify token with
        | some (.literal w) => .ok w
        | _ => .error (.invalidNumber token)
      else .error (.numberOverflow token) := by
  have hread := readReal_eq h
  unfold checkOperand
  generalize readReal token = r at hread ⊢
  rcases hread with ⟨hextreme, rfl⟩ | ⟨-, rfl⟩
  · have hform : ∀ d, ¬IsSignedDigits token.toList d :=
      fun d hd => hd.not_extreme h hlen hextreme
    rw [h.extremeError_eq hlen hextreme, classify_of_not_signedDigits hform]
    cases n.decimal.inRange <;> cases Operator.ofSymbol? token <;> rfl
  · rfl

theorem checkOperand_of_not_isNumeral {token : String} (h : ∀ n, ¬IsNumeral token.toList n) :
    checkOperand token = .error (.invalidNumber token) := by
  simp only [checkOperand, readReal, (Numeral.parse?_eq_none_iff _).mpr h]

namespace OperandVerdict

theorem sound {token : String} {r : Except CalcError Word} (h : OperandVerdict token r)
    (hlen : token.length < 10 ^ 17) : checkOperand token = r := by
  have hrange : ∀ n : Numeral, n.decimal.inRange = true ↔ FitsWord n.value := by
    intro n
    rw [Decimal.inRange_iff, Numeral.value_decimal]
  cases h with
  | unreal hform => exact checkOperand_of_not_isNumeral hform
  | outside hform hvalue =>
    rw [checkOperand_of_isNumeral hform hlen, if_neg (mt (hrange _).mp hvalue)]
  | notInteger hform hvalue hinteger =>
    rw [checkOperand_of_isNumeral hform hlen, if_pos ((hrange _).mpr hvalue),
      classify_of_not_signedDigits hinteger]
    cases Operator.ofSymbol? token <;> rfl
  | @integer n d w hform hinteger hvalue =>
    have hfits : FitsWord n.value := by
      rw [← hvalue, fitsWord_intCast]
      exact w.inRange
    have hword : d.value = w.value := by
      rw [hinteger.value_eq hform] at hvalue
      exact_mod_cast hvalue.symm
    rw [checkOperand_of_isNumeral hform hlen, if_pos ((hrange n).mpr hfits),
      classify_of_signedDigits hinteger, hword, Word.ofInt?_value]
    rfl

/-- Every token has a verdict. -/
theorem total (token : String) : ∃ r, OperandVerdict token r := by
  by_cases hform : ∃ n, IsNumeral token.toList n
  · obtain ⟨n, hn⟩ := hform
    by_cases hvalue : FitsWord n.value
    · by_cases hinteger : ∃ d, IsSignedDigits token.toList d
      · obtain ⟨d, hd⟩ := hinteger
        have heq := hd.value_eq hn
        rw [heq, fitsWord_intCast] at hvalue
        exact ⟨.ok ⟨d.value, hvalue⟩, .integer hn hd heq.symm⟩
      · exact ⟨_, .notInteger hn hvalue (not_exists.mp hinteger)⟩
    · exact ⟨_, .outside hn hvalue⟩
  · exact ⟨_, .unreal (not_exists.mp hform)⟩

end OperandVerdict

/-- The check answers each token with its verdict and with nothing else. -/
theorem checkOperand_eq_iff_verdict {token : String} (hlen : token.length < 10 ^ 17)
    (r : Except CalcError Word) : checkOperand token = r ↔ OperandVerdict token r := by
  constructor
  · rintro rfl
    obtain ⟨r, hr⟩ := OperandVerdict.total token
    rw [hr.sound hlen]
    exact hr
  · exact fun hr => hr.sound hlen

/-- An exponent of nineteen digits, behind a mantissa that is not zero and one that is. -/
theorem checkOperand_long_exponents :
    OperandVerdict "5e-1000000000000000000" (.error (.invalidNumber "5e-1000000000000000000")) ∧
      OperandVerdict "5e+1000000000000000000" (.error (.numberOverflow "5e+1000000000000000000")) ∧
      OperandVerdict "0e+1000000000000000000" (.error (.invalidNumber "0e+1000000000000000000")) :=
  ⟨(checkOperand_eq_iff_verdict (by decide) _).mp rfl, (checkOperand_eq_iff_verdict (by decide) _).mp rfl,
    (checkOperand_eq_iff_verdict (by decide) _).mp rfl⟩

end Calculator
