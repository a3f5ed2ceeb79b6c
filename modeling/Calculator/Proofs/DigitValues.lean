import Mathlib.Algebra.Ring.Nat
import Mathlib.Data.List.TakeWhile
import Calculator.Proofs.NumeralGrammar

/-!
# Values of digits and tokens in print

The count of significant digits bounds the value of a run of digits from both sides, so a reader that looks at this
count first refuses no text that denotes a word. The text of an integer is such a run behind a minus or behind nothing,
and a token is classified back from its text over the whole range of a word.
-/

namespace Calculator

theorem toNat_of_isDigit {c : Char} (h : c.isDigit = true) : '0'.toNat ≤ c.toNat ∧ c.toNat ≤ '9'.toNat := by
  simp only [Char.isDigit, ge_iff_le, Bool.and_eq_true, decide_eq_true_eq] at h
  exact ⟨UInt32.le_iff_toNat_le.mp h.1, UInt32.le_iff_toNat_le.mp h.2⟩

theorem eq_zero_of_toNat {c : Char} (h : c.toNat = '0'.toNat) : c = '0' := Char.toNat_inj.mp h

theorem areDigits_cons {c : Char} {cs : List Char} :
    AreDigits (c :: cs) ↔ c.isDigit = true ∧ AreDigits cs := by
  simp [AreDigits]

theorem AreDigits.append {cs ds : List Char} (hcs : AreDigits cs) (hds : AreDigits ds) :
    AreDigits (cs ++ ds) := by
  intro c hc
  rcases List.mem_append.mp hc with h | h
  · exact hcs c h
  · exact hds c h

theorem AreDigits.dropWhile {cs : List Char} (h : AreDigits cs) (p : Char → Bool) :
    AreDigits (cs.dropWhile p) :=
  fun c hc => h c ((List.dropWhile_sublist p).mem hc)

theorem IsSignedDigits.areDigits {cs : List Char} {n : SignedDigits} (h : IsSignedDigits cs n) :
    AreDigits n.digits := by
  cases h with
  | mk _ hdigits _ => exact hdigits

theorem ofDigitChars_cons_zero (c : Char) (cs : List Char) :
    Nat.ofDigitChars 10 (c :: cs) 0 =
      10 ^ cs.length * (c.toNat - '0'.toNat) + Nat.ofDigitChars 10 cs 0 := by
  rw [Nat.ofDigitChars_cons, Nat.mul_zero, Nat.zero_add, Nat.ofDigitChars_eq_ofDigitChars_zero]

theorem ofDigitChars_lt {cs : List Char} (h : AreDigits cs) : Nat.ofDigitChars 10 cs 0 < 10 ^ cs.length := by
  induction cs with
  | nil => simp
  | cons c cs ih =>
    obtain ⟨hc, hcs⟩ := areDigits_cons.mp h
    have hrest := ih hcs
    have hdigit : c.toNat - '0'.toNat ≤ 9 := by
      have := (toNat_of_isDigit hc).2
      have hnine : '9'.toNat = '0'.toNat + 9 := rfl
      omega
    have hscaled := Nat.mul_le_mul_left (10 ^ cs.length) hdigit
    rw [ofDigitChars_cons_zero, List.length_cons, Nat.pow_succ]
    omega

/-- A first digit other than zero sets the size of the number. -/
theorem pow_le_ofDigitChars {c : Char} {cs : List Char} (h : AreDigits (c :: cs)) (hc : c ≠ '0') :
    10 ^ cs.length ≤ Nat.ofDigitChars 10 (c :: cs) 0 := by
  obtain ⟨hdigit, -⟩ := areDigits_cons.mp h
  have hpos : 1 ≤ c.toNat - '0'.toNat := by
    have hlow := (toNat_of_isDigit hdigit).1
    have hne : c.toNat ≠ '0'.toNat := fun heq => hc (eq_zero_of_toNat heq)
    omega
  have hscaled := Nat.mul_le_mul_left (10 ^ cs.length) hpos
  rw [ofDigitChars_cons_zero]
  omega

theorem ofDigitChars_dropWhile_zero (cs : List Char) :
    Nat.ofDigitChars 10 (cs.dropWhile (· = '0')) 0 = Nat.ofDigitChars 10 cs 0 := by
  induction cs with
  | nil => rfl
  | cons c cs ih =>
    by_cases hc : c = '0'
    · rw [List.dropWhile_cons_of_pos (by simpa using hc), ih, ofDigitChars_cons_zero, hc]
      simp
    · rw [List.dropWhile_cons_of_neg (by simpa using hc)]

/-- Without its leading zeros, a run of digits is at most as long as the number is large. -/
theorem length_dropWhile_zero_le_iff {cs : List Char} (h : AreDigits cs) (k : Nat) :
    (cs.dropWhile (· = '0')).length ≤ k ↔ Nat.ofDigitChars 10 cs 0 < 10 ^ k := by
  have hdigits := h.dropWhile (· = '0')
  have hfirst := List.head?_dropWhile_not (· = '0') cs
  rw [← ofDigitChars_dropWhile_zero cs]
  cases hcs : cs.dropWhile (· = '0') with
  | nil => exact ⟨fun _ => Nat.pow_pos (by decide), fun _ => Nat.zero_le k⟩
  | cons c ds =>
    rw [hcs] at hdigits hfirst
    have hc : c ≠ '0' := by simpa using hfirst
    constructor
    · intro hlength
      exact Nat.lt_of_lt_of_le (ofDigitChars_lt hdigits) (Nat.pow_le_pow_right (by decide) hlength)
    · intro hlt
      have hlow := Nat.lt_of_le_of_lt (pow_le_ofDigitChars hdigits hc) hlt
      exact (Nat.pow_lt_pow_iff_right (by decide)).mp hlow

theorem ofDigitChars_eq_zero_iff {cs : List Char} (h : AreDigits cs) :
    Nat.ofDigitChars 10 cs 0 = 0 ↔ cs.all (· = '0') = true := by
  have hzero := length_dropWhile_zero_le_iff h 0
  rw [Nat.pow_zero, Nat.lt_one_iff, Nat.le_zero, List.length_eq_zero_iff] at hzero
  rw [← hzero, List.dropWhile_eq_nil_iff, List.all_eq_true]

theorem natAbs_applySign (negative : Bool) (n : Nat) : (applySign negative n).natAbs = n := by
  cases negative <;> simp [applySign]

namespace SignedDigits

theorem value_significant (n : SignedDigits) :
    applySign n.negative (Nat.ofDigitChars 10 n.significant 0) = n.value := by
  rw [significant, ofDigitChars_dropWhile_zero, value]

theorem significant_length_le_iff {n : SignedDigits} (h : AreDigits n.digits) (k : Nat) :
    n.significant.length ≤ k ↔ n.value.natAbs < 10 ^ k := by
  rw [significant, length_dropWhile_zero_le_iff h, value, natAbs_applySign]

/-- No word has more significant digits than are converted. -/
theorem significant_length_le {n : SignedDigits} (h : AreDigits n.digits) (hrange : InRange n.value) :
    n.significant.length ≤ maxDigits := by
  rw [inRange_iff] at hrange
  rw [significant_length_le_iff h]
  simp only [maxDigits]
  omega

/-- The limit on significant digits refuses nothing that the range of a word would accept. -/
theorem word?_eq {n : SignedDigits} (h : AreDigits n.digits) : n.word? = Word.ofInt? n.value := by
  unfold word?
  rw [value_significant]
  split
  · next hlong =>
    have hout : ¬InRange n.value := fun hrange =>
      absurd (significant_length_le h hrange) (Nat.not_le.mpr hlong)
    exact ((Word.ofInt?_eq_none_iff n.value).mpr hout).symm
  · rfl

end SignedDigits

theorem classify_of_signedDigits {token : String} {n : SignedDigits} (h : IsSignedDigits token.toList n) :
    classify token = (Word.ofInt? n.value).map .literal := by
  rw [classify, (SignedDigits.parse?_eq_some_iff _ n).mpr h]
  simp only
  rw [SignedDigits.word?_eq h.areDigits]

/-- A token without the form of an integer is an operator symbol or nothing. -/
theorem classify_of_not_signedDigits {token : String} (h : ∀ n, ¬IsSignedDigits token.toList n) :
    classify token = (Operator.ofSymbol? token).map .operator := by
  rw [classify, (SignedDigits.parse?_eq_none_iff _).mpr h]

theorem areDigits_toDigits (n : Nat) : AreDigits (Nat.toDigits 10 n) :=
  fun _ hc => Nat.isDigit_of_mem_toDigits (by decide) (by decide) hc

theorem isSignedDigits_toString (v : Int) :
    IsSignedDigits (toString v).toList ⟨decide (v < 0), Nat.toDigits 10 v.natAbs⟩ := by
  have hdigits := areDigits_toDigits v.natAbs
  rw [Int.toString_eq_repr, Int.repr_eq_if]
  by_cases hv : v < 0
  · have habs : (-v).toNat = v.natAbs := by omega
    rw [if_neg (by omega), String.toList_append, Nat.toList_repr, habs, decide_eq_true hv]
    exact .mk .minus hdigits Nat.toDigits_ne_nil
  · have habs : v.toNat = v.natAbs := by omega
    rw [if_pos (by omega), Nat.toList_repr, habs, decide_eq_false hv]
    exact .mk .absent hdigits Nat.toDigits_ne_nil

theorem value_toDigits (v : Int) :
    SignedDigits.value ⟨decide (v < 0), Nat.toDigits 10 v.natAbs⟩ = v := by
  rw [SignedDigits.value, Nat.ofDigitChars_ten_toDigits, applySign]
  by_cases hv : v < 0
  · rw [if_pos (by simpa using hv)]
    omega
  · rw [if_neg (by simpa using hv)]
    omega

/-- An integer in print is read back. -/
theorem readInt?_toString (v : Int) : readInt? (toString v) = some v := by
  rw [readInt?, (SignedDigits.parse?_eq_some_iff _ _).mpr (isSignedDigits_toString v), Option.map_some, value_toDigits]

theorem classify_toString (v : Int) : classify (toString v) = (Word.ofInt? v).map .literal := by
  rw [classify_of_signedDigits (isSignedDigits_toString v), value_toDigits]

@[simp] theorem classify_word (w : Word) : classify w.text = some (.literal w) := by
  rw [Word.text, classify_toString, Word.ofInt?_value]
  rfl

@[simp] theorem classify_symbol (op : Operator) : classify op.symbol = some (.operator op) := by
  cases op <;> rfl

/-- Only its symbol is classified as an operator. -/
theorem classify_eq_operator_iff (token : String) (op : Operator) :
    classify token = some (.operator op) ↔ token = op.symbol := by
  constructor
  · intro h
    unfold classify at h
    split at h
    · simp at h
    · exact (Operator.ofSymbol?_eq_some_iff token op).mp (by simpa using h)
  · rintro rfl
    exact classify_symbol op

end Calculator
