import Calculator.Proofs.StackMachine

/-!
# Truncated division and exact results

The quotient of absolute values with its sign put back, and what it leaves of the dividend, are the quotient and the
remainder of truncated division. A quotient and its remainder are fixed by the division that they belong
to: together they make up the dividend, and the remainder is smaller than the divisor and has the sign of the
dividend. The remainder of two words is therefore a word, and so is their quotient, unless the lowest word is
divided by minus one. Evaluation applies operators to words only, and keeps to this.
-/

namespace Calculator

namespace Operator

theorem truncatedDiv_eq_tdiv (a b : Int) : truncatedDiv a b = a.tdiv b := by
  have hnonneg (n : Nat) : ¬Int.ofNat n < 0 := Int.not_lt.mpr (Int.natCast_nonneg n)
  cases a with
  | ofNat m =>
    cases b with
    | ofNat n => exact truncatedDiv_of_iff (iff_of_false (hnonneg m) (hnonneg n))
    | negSucc n => exact truncatedDiv_of_not_iff fun h => hnonneg m (h.mpr (Int.negSucc_lt_zero n))
  | negSucc m =>
    cases b with
    | ofNat n => exact truncatedDiv_of_not_iff fun h => hnonneg n (h.mp (Int.negSucc_lt_zero m))
    | negSucc n => exact truncatedDiv_of_iff (iff_of_true (Int.negSucc_lt_zero m) (Int.negSucc_lt_zero n))

theorem truncatedMod_eq_tmod (a b : Int) : truncatedMod a b = a.tmod b := by
  rw [truncatedMod, truncatedDiv_eq_tdiv, Int.tmod_def, Int.mul_comm]

@[simp] theorem exact_div (a b : Int) : exact .div a b = a.tdiv b := truncatedDiv_eq_tdiv a b
@[simp] theorem exact_mod (a b : Int) : exact .mod a b = a.tmod b := truncatedMod_eq_tmod a b

end Operator

/-- The division of `a` by `b` that cuts the quotient toward zero. -/
structure IsTruncated (a b quotient remainder : Int) : Prop where
  sum : a = quotient * b + remainder
  small : remainder.natAbs < b.natAbs
  sign : remainder = 0 ∨ remainder.sign = a.sign

namespace IsTruncated

variable {a b q r : Int}

theorem divisor_ne_zero (h : IsTruncated a b q r) : b ≠ 0 := by
  have := h.small
  omega

theorem nonneg (h : IsTruncated a b q r) (ha : 0 ≤ a) : 0 ≤ r := by
  rcases h.sign with hzero | hsign
  · omega
  · rw [← Int.sign_nonneg_iff, hsign, Int.sign_nonneg_iff]
    exact ha

theorem nonpos (h : IsTruncated a b q r) (ha : a ≤ 0) : r ≤ 0 := by
  rcases h.sign with hzero | hsign
  · omega
  · rw [← Int.sign_nonpos_iff, hsign, Int.sign_nonpos_iff]
    exact ha

end IsTruncated

theorem isTruncated_tdiv_tmod {a b : Int} (hb : b ≠ 0) : IsTruncated a b (a.tdiv b) (a.tmod b) where
  sum := (Int.tdiv_mul_add_tmod a b).symm
  small := by
    rw [Int.natAbs_tmod]
    exact Nat.mod_lt _ (Int.natAbs_pos.mpr hb)
  sign := by
    rw [Int.sign_tmod]
    by_cases hdvd : b ∣ a
    · exact .inl (Int.tmod_eq_zero_of_dvd hdvd)
    · exact .inr (if_neg hdvd)

/-- There is only one such division. -/
theorem IsTruncated.eq {a b q r : Int} (h : IsTruncated a b q r) : a.tdiv b = q ∧ a.tmod b = r := by
  have hb := h.divisor_ne_zero
  have hsum : r + b * q = a := by rw [h.sum, Int.mul_comm, Int.add_comm]
  have hsmall := h.small
  rcases Int.le_total 0 a with ha | ha
  · have hr := h.nonneg ha
    exact (Int.tdiv_tmod_unique ha hb).mpr ⟨hsum, hr, by omega⟩
  · have hr := h.nonpos ha
    exact (Int.tdiv_tmod_unique' ha hb).mpr ⟨hsum, by omega, hr⟩

/-- The exact results of the operators. Without a divisor other than zero there is no quotient and no remainder. -/
inductive IsExact : Operator → Int → Int → Int → Prop where
  | add (a b : Int) : IsExact .add a b (a + b)
  | sub (a b : Int) : IsExact .sub a b (a - b)
  | mul (a b : Int) : IsExact .mul a b (a * b)
  | div {a b q r : Int} (h : IsTruncated a b q r) : IsExact .div a b q
  | mod {a b q r : Int} (h : IsTruncated a b q r) : IsExact .mod a b r

theorem isExact_iff (op : Operator) (a b v : Int) :
    IsExact op a b v ↔ ¬(op.divides ∧ b = 0) ∧ op.exact a b = v := by
  constructor
  · intro h
    cases h with
    | add | sub | mul => simp [Operator.divides, Operator.exact]
    | div h =>
      rw [Operator.exact_div]
      exact ⟨fun hzero => h.divisor_ne_zero hzero.2, h.eq.1⟩
    | mod h =>
      rw [Operator.exact_mod]
      exact ⟨fun hzero => h.divisor_ne_zero hzero.2, h.eq.2⟩
  · rintro ⟨hdiv, rfl⟩
    cases op with
    | add => exact .add a b
    | sub => exact .sub a b
    | mul => exact .mul a b
    | div =>
      rw [Operator.exact_div]
      exact .div (isTruncated_tdiv_tmod fun hb => hdiv ⟨rfl, hb⟩)
    | mod =>
      rw [Operator.exact_mod]
      exact .mod (isTruncated_tdiv_tmod fun hb => hdiv ⟨rfl, hb⟩)

theorem Operator.divides_iff (op : Operator) : op.divides = true ↔ op = .div ∨ op = .mod := by
  cases op <;> decide

namespace IsExact

variable {op : Operator} {a b v : Int}

/-- The result is given back if it is a word, and otherwise the operands and the operator are reported. -/
theorem apply_eq (h : IsExact op a b v) :
    op.apply a b = if InRange v then .ok v else .error (.outOfBounds a b op) := by
  obtain ⟨hdiv, rfl⟩ := (isExact_iff op a b v).mp h
  exact if_neg hdiv

theorem apply_of_inRange (h : IsExact op a b v) (hv : InRange v) : op.apply a b = .ok v := by
  rw [h.apply_eq, if_pos hv]

end IsExact

namespace Operator

theorem apply_eq_ok_iff (op : Operator) (a b v : Int) :
    op.apply a b = .ok v ↔ IsExact op a b v ∧ InRange v := by
  constructor
  · intro h
    have hrange := inRange_of_apply h
    unfold apply at h
    split at h
    · simp at h
    · next hdiv =>
      split at h
      · exact ⟨(isExact_iff op a b v).mpr ⟨hdiv, Except.ok.inj h⟩, hrange⟩
      · simp at h
  · rintro ⟨hexact, hrange⟩
    exact hexact.apply_of_inRange hrange

theorem apply_eq_error_iff (op : Operator) (a b : Int) (c : CalcError) :
    op.apply a b = .error c ↔
      (op = .div ∨ op = .mod) ∧ b = 0 ∧ c = .divisionByZero a op ∨
        ∃ v, IsExact op a b v ∧ ¬InRange v ∧ c = .outOfBounds a b op := by
  constructor
  · intro h
    by_cases hdiv : op.divides = true ∧ b = 0
    · rw [apply, if_pos hdiv] at h
      cases h
      exact .inl ⟨(divides_iff op).mp hdiv.1, hdiv.2, rfl⟩
    · have hexact : IsExact op a b (op.exact a b) := (isExact_iff op a b _).mpr ⟨hdiv, rfl⟩
      rw [hexact.apply_eq] at h
      split at h
      · simp at h
      · next hrange =>
        cases h
        exact .inr ⟨_, hexact, hrange, rfl⟩
  · rintro (⟨hop, hb, rfl⟩ | ⟨v, hexact, hrange, rfl⟩)
    · exact if_pos ⟨(divides_iff op).mpr hop, hb⟩
    · rw [hexact.apply_eq, if_neg hrange]

/-- Where an application overflows, it reports its own operands, and its result is no word. -/
theorem apply_eq_outOfBounds_iff (op o : Operator) (a b l r : Int) :
    op.apply a b = .error (.outOfBounds l r o) ↔
      (∃ v, IsExact op a b v ∧ ¬InRange v) ∧ l = a ∧ r = b ∧ o = op := by
  simp only [apply_eq_error_iff, reduceCtorEq, and_false, false_or, CalcError.outOfBounds.injEq,
    ← exists_and_right, and_assoc]

end Operator

namespace IsTruncated

variable {a b : Word} {q r : Int}

/-- A remainder is smaller than its divisor, so it is a word even where the quotient is none. -/
theorem inRange_remainder (h : IsTruncated a.value b.value q r) : InRange r := by
  have hb := (inRange_iff b.value).mp b.inRange
  have hsmall := h.small
  rw [inRange_iff]
  omega

/-- Only the lowest word has no counterpart of the other sign. -/
theorem inRange_quotient_iff (h : IsTruncated a.value b.value q r) :
    InRange q ↔ ¬(a.value = minWord ∧ b.value = -1) := by
  have ha := (inRange_iff a.value).mp a.inRange
  have hsum := h.sum
  have hsmall := h.small
  rw [inRange_iff, minWord]
  by_cases hunit : b.value.natAbs = 1
  · rcases Int.natAbs_eq_iff.mp hunit with hb | hb
    · rw [hb] at hsum hsmall ⊢
      omega
    · rw [hb] at hsum hsmall ⊢
      omega
  · have hb := Int.natAbs_pos.mpr h.divisor_ne_zero
    have hq : q.natAbs = a.value.natAbs / b.value.natAbs := by
      rw [← h.eq.1, Int.natAbs_tdiv]
      rfl
    have hhalf : a.value.natAbs / b.value.natAbs ≤ a.value.natAbs / 2 := Nat.div_le_div_left (by omega) (by decide)
    omega

/-- The dividend without its remainder lies between zero and the dividend. -/
theorem inRange_product (h : IsTruncated a.value b.value q r) : InRange (q * b.value) := by
  have ha := (inRange_iff a.value).mp a.inRange
  have hr : r.natAbs ≤ a.value.natAbs := by
    rw [← h.eq.2, Int.natAbs_tmod]
    exact Nat.mod_le _ _
  have hsum := h.sum
  rw [inRange_iff]
  rcases Int.le_total 0 a.value with hsign | hsign
  · have := h.nonneg hsign
    omega
  · have := h.nonpos hsign
    omega

end IsTruncated

section Words

variable (a b : Word)

theorem remainder_ne_outOfBounds (l r : Int) (o : Operator) :
    Operator.mod.apply a.value b.value ≠ .error (.outOfBounds l r o) := by
  rw [ne_eq, Operator.apply_eq_outOfBounds_iff]
  rintro ⟨⟨v, hexact, hrange⟩, -⟩
  cases hexact with
  | mod h => exact hrange h.inRange_remainder

theorem quotient_eq_outOfBounds_iff (l r : Int) (o : Operator) :
    Operator.div.apply a.value b.value = .error (.outOfBounds l r o) ↔
      (a.value = minWord ∧ b.value = -1) ∧ l = a.value ∧ r = b.value ∧ o = .div := by
  rw [Operator.apply_eq_outOfBounds_iff]
  refine and_congr_left fun _ => ?_
  constructor
  · rintro ⟨v, hexact, hrange⟩
    cases hexact with
    | div h => exact Decidable.not_not.mp (mt h.inRange_quotient_iff.mpr hrange)
  · intro hlowest
    have hb : b.value ≠ 0 := by omega
    have h := isTruncated_tdiv_tmod (a := a.value) hb
    exact ⟨_, .div h, fun hrange => h.inRange_quotient_iff.mp hrange hlowest⟩

/-- Multiplying the quotient by the divisor and adding the remainder undoes the division, and no step of it
overflows. -/
theorem division_restores (hb : b.value ≠ 0) (hlowest : ¬(a.value = minWord ∧ b.value = -1)) :
    (do
      let q ← Operator.div.apply a.value b.value
      let p ← Operator.mul.apply q b.value
      let r ← Operator.mod.apply a.value b.value
      Operator.add.apply p r) = .ok a.value := by
  have h := isTruncated_tdiv_tmod (a := a.value) hb
  have hsum : IsExact .add (a.value.tdiv b.value * b.value) (a.value.tmod b.value) a.value := by
    have hadd := IsExact.add (a.value.tdiv b.value * b.value) (a.value.tmod b.value)
    rwa [← h.sum] at hadd
  rw [(IsExact.div h).apply_of_inRange (h.inRange_quotient_iff.mpr hlowest), ok_bind,
    (IsExact.mul _ _).apply_of_inRange h.inRange_product, ok_bind,
    (IsExact.mod h).apply_of_inRange h.inRange_remainder, ok_bind]
  exact hsum.apply_of_inRange a.inRange

end Words

/-- What a sequence fails with is the error of an operator that is applied to two words. -/
theorem Rpn.exists_apply_of_evaluate {p : Rpn} {c : CalcError} (h : p.evaluate = .error (.error c)) :
    ∃ (a b : Word) (op : Operator), op.apply a.value b.value = .error c := by
  obtain ⟨t, rfl⟩ := p.exists_tree
  rw [evaluate_toRpn] at h
  refine t.exists_apply_of_eval ?_
  cases heval : t.eval with
  | ok v => simp [heval] at h
  | error e =>
    rw [heval] at h
    cases h
    rfl

/-- An operator refuses a divisor of zero, and otherwise gives its one exact result if a word holds it, and
reports its operands if none does. Two words leave a remainder that is a word and have a quotient that is one,
unless the lowest word is divided by minus one; apart from that the division can be undone step by step. No
sequence reports an overflow of a remainder, and one of a quotient only for that pair. -/
theorem apply_gives_exact_result :
    (∀ (op : Operator) (a b : Int),
      (∀ d o, op.apply a b = .error (.divisionByZero d o) ↔
        (op = .div ∨ op = .mod) ∧ b = 0 ∧ d = a ∧ o = op) ∧
      (∀ v, op.apply a b = .ok v ↔ IsExact op a b v ∧ InRange v) ∧
      (∀ l r o, op.apply a b = .error (.outOfBounds l r o) ↔
        (∃ v, IsExact op a b v ∧ ¬InRange v) ∧ l = a ∧ r = b ∧ o = op) ∧
      (¬((op = .div ∨ op = .mod) ∧ b = 0) → ∃ v, IsExact op a b v ∧ ∀ u, IsExact op a b u → u = v) ∧
      (b ≠ 0 → ∃ q r, IsTruncated a b q r ∧ ∀ q' r', IsTruncated a b q' r' → q' = q ∧ r' = r)) ∧
    (∀ a b : Word,
      (∀ l r o, Operator.mod.apply a.value b.value ≠ .error (.outOfBounds l r o)) ∧
      ((∃ l r o, Operator.div.apply a.value b.value = .error (.outOfBounds l r o)) ↔
        a.value = minWord ∧ b.value = -1) ∧
      (b.value ≠ 0 → ¬(a.value = minWord ∧ b.value = -1) →
        (do
          let q ← Operator.div.apply a.value b.value
          let p ← Operator.mul.apply q b.value
          let r ← Operator.mod.apply a.value b.value
          Operator.add.apply p r) = .ok a.value)) ∧
    ∀ (p : Rpn) (l r : Int),
      p.evaluate ≠ .error (.error (.outOfBounds l r .mod)) ∧
      (p.evaluate = .error (.error (.outOfBounds l r .div)) → l = minWord ∧ r = -1) := by
  refine ⟨fun op a b => ⟨?_, op.apply_eq_ok_iff a b, fun l r o => op.apply_eq_outOfBounds_iff o a b l r, ?_, ?_⟩,
    fun a b => ⟨remainder_ne_outOfBounds a b, ?_, division_restores a b⟩, fun p l r => ⟨?_, ?_⟩⟩
  · intro d o
    simp [Operator.apply_eq_error_iff]
  · intro hdiv
    rw [← op.divides_iff] at hdiv
    refine ⟨op.exact a b, (isExact_iff op a b _).mpr ⟨hdiv, rfl⟩, fun u hu => ?_⟩
    exact ((isExact_iff op a b u).mp hu).2.symm
  · intro hb
    exact ⟨_, _, isTruncated_tdiv_tmod hb, fun q r h => ⟨h.eq.1.symm, h.eq.2.symm⟩⟩
  · constructor
    · rintro ⟨l, r, o, h⟩
      exact ((quotient_eq_outOfBounds_iff a b l r o).mp h).1
    · intro h
      exact ⟨_, _, _, (quotient_eq_outOfBounds_iff a b _ _ _).mpr ⟨h, rfl, rfl, rfl⟩⟩
  · intro h
    obtain ⟨a, b, op, happly⟩ := Rpn.exists_apply_of_evaluate h
    obtain ⟨-, -, -, rfl⟩ := (Operator.apply_eq_outOfBounds_iff op .mod _ _ l r).mp happly
    exact remainder_ne_outOfBounds a b l r .mod happly
  · intro h
    obtain ⟨a, b, op, happly⟩ := Rpn.exists_apply_of_evaluate h
    obtain ⟨-, -, -, rfl⟩ := (Operator.apply_eq_outOfBounds_iff op .div _ _ l r).mp happly
    obtain ⟨hlowest, rfl, rfl, -⟩ := (quotient_eq_outOfBounds_iff a b l r .div).mp happly
    exact hlowest

/-- The pair whose quotient overflows still leaves a remainder. -/
example : Operator.mod.apply minWord (-1) = .ok 0 ∧
    Operator.div.apply minWord (-1) = .error (.outOfBounds minWord (-1) .div) :=
  ⟨rfl, rfl⟩

end Calculator
