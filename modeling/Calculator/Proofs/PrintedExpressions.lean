import Calculator.Proofs.Acceptance
import Calculator.Proofs.Calculations

/-!
# Reading texts back

Classification is compared with a plain reading of the text over unbounded integers, which knows neither leading
zeros nor a limit on digits. No text that is classified as a token holds a space, and tokens are printed with single
spaces between them. A valid expression is therefore read back from its print by cutting it at its spaces, and a postfix
sequence by classifying the pieces as well.
-/

namespace Calculator

/-- What a text denotes as a token: the value of its digits if a word holds that value, or an operator. -/
inductive PlainReading (text : String) : Option Token → Prop where
  | literal {n : SignedDigits} {w : Word} (hform : IsSignedDigits text.toList n)
      (hvalue : n.value = w.value) : PlainReading text (some (.literal w))
  | operator {op : Operator} (hsymbol : text = op.symbol) : PlainReading text (some (.operator op))
  | neither (hliteral : ∀ n, IsSignedDigits text.toList n → ¬InRange n.value)
      (hoperator : ∀ op : Operator, text ≠ op.symbol) : PlainReading text none

namespace PlainReading

theorem sound {text : String} {r : Option Token} (h : PlainReading text r) : classify text = r := by
  cases h with
  | @literal n w hform hvalue => rw [classify_of_signedDigits hform, hvalue, Word.ofInt?_value, Option.map_some]
  | operator hsymbol => rw [hsymbol, classify_symbol]
  | neither hliteral hoperator =>
    by_cases hform : ∃ n, IsSignedDigits text.toList n
    · obtain ⟨n, hn⟩ := hform
      rw [classify_of_signedDigits hn, (Word.ofInt?_eq_none_iff n.value).mpr (hliteral n hn), Option.map_none]
    · rw [classify_of_not_signedDigits (not_exists.mp hform),
        (Operator.ofSymbol?_eq_none_iff text).mpr hoperator, Option.map_none]

/-- Every text has a reading. -/
theorem total (text : String) : ∃ r, PlainReading text r := by
  by_cases hliteral : ∃ n, IsSignedDigits text.toList n ∧ InRange n.value
  · obtain ⟨n, hform, hrange⟩ := hliteral
    exact ⟨some (.literal ⟨n.value, hrange⟩), .literal hform rfl⟩
  by_cases hoperator : ∃ op : Operator, text = op.symbol
  · obtain ⟨op, hsymbol⟩ := hoperator
    exact ⟨some (.operator op), .operator hsymbol⟩
  · exact ⟨none, .neither (fun n hform hrange => hliteral ⟨n, hform, hrange⟩) (not_exists.mp hoperator)⟩

end PlainReading

theorem classify_eq_iff_reading (text : String) (r : Option Token) :
    classify text = r ↔ PlainReading text r := by
  constructor
  · rintro rfl
    obtain ⟨r, hr⟩ := PlainReading.total text
    rw [hr.sound]
    exact hr
  · exact PlainReading.sound

section Operand

variable {token : String} {n : SignedDigits}

theorem IsSignedDigits.checkOperand_of_inRange (h : IsSignedDigits token.toList n)
    (hrange : InRange n.value) : checkOperand token = .ok ⟨n.value, hrange⟩ := by
  have hreading : PlainReading token (some (.literal ⟨n.value, hrange⟩)) := .literal h rfl
  exact (checkOperand_eq_ok_iff token _).mpr hreading.sound

/-- An integer that is too long for a decimal is not zero, and has no exponent that could make it small. -/
theorem SignedDigits.extremeError_eq (h : AreDigits n.digits) (hne : n.value ≠ 0) (token : String) :
    n.numeral.extremeError token = .numberOverflow token := by
  have hdigits : Nat.ofDigitChars 10 n.digits 0 ≠ 0 := by
    intro hzero
    exact hne (by simp [value, applySign, hzero])
  have hmantissa : n.numeral.mantissa = n.digits := List.append_nil n.digits
  have hzero : n.numeral.isZero = false := by
    rw [Numeral.isZero, hmantissa, ← Bool.not_eq_true, ← ofDigitChars_eq_zero_iff h]
    exact hdigits
  have hsign : n.numeral.exponent.negative = false := rfl
  simp [Numeral.extremeError, hsign, hzero]

/-- However long its digits are, an integer outside the range is reported as too large. -/
theorem IsSignedDigits.checkOperand_of_not_inRange (h : IsSignedDigits token.toList n)
    (hrange : ¬InRange n.value) : checkOperand token = .error (.numberOverflow token) := by
  rcases readReal_eq h.isNumeral with ⟨-, hread⟩ | ⟨-, hread⟩
  · -- The integer has more digits than a decimal may have.
    have hne : n.value ≠ 0 := by
      intro hzero
      exact hrange (by rw [hzero]; decide)
    simp only [checkOperand, hread, SignedDigits.extremeError_eq h.areDigits hne]
  · simp only [checkOperand, hread, if_neg (mt h.inRange_decimal_iff.mp hrange)]

/-- An integer is left unclassified exactly if the check of an operand finds it out of range. -/
theorem IsSignedDigits.classify_eq_none_iff (h : IsSignedDigits token.toList n) :
    classify token = none ↔ checkOperand token = .error (.numberOverflow token) := by
  rw [classify_of_signedDigits h, Option.map_eq_none_iff, Word.ofInt?_eq_none_iff]
  by_cases hrange : InRange n.value
  · simp [hrange, h.checkOperand_of_inRange hrange]
  · simp [hrange, h.checkOperand_of_not_inRange hrange]

end Operand

/-- Classification is the plain reading, and answers every text. No word has too many significant digits, and
what is counted and converted without leading zeros is a word exactly if the value of all digits is one. An
integer without a token is one that the check of an operand reports as too large. -/
theorem classify_agrees_with_reading (text : String) :
    (∀ r, classify text = r ↔ PlainReading text r) ∧
      (isOperator text = true ↔ ∃ op : Operator, text = op.symbol) ∧
      ∀ n, IsSignedDigits text.toList n →
        (InRange n.value → n.significant.length ≤ maxDigits) ∧ n.word? = Word.ofInt? n.value ∧
          (classify text = none ↔ checkOperand text = .error (.numberOverflow text)) := by
  refine ⟨classify_eq_iff_reading text, isOperator_iff text, fun n h => ⟨?_, ?_, h.classify_eq_none_iff⟩⟩
  · exact SignedDigits.significant_length_le h.areDigits
  · exact SignedDigits.word?_eq h.areDigits

/-- The range goes further below zero than above, and zeros in front do not count. -/
example : (classify "-009223372036854775808").isSome ∧ classify "+009223372036854775808" = none := by decide

/-- The pieces of a text between its spaces. -/
def splitSpaces (text : String) : List String := (text.split ' ').toList.map (·.copy)

theorem splitSpaces_intercalate {pieces : List String} (hne : pieces ≠ []) (h : ∀ p ∈ pieces, ' ' ∉ p.toList) :
    splitSpaces (" ".intercalate pieces) = pieces := by
  have hsplit := String.toList_split_intercalate h
  rw [if_neg hne] at hsplit
  exact hsplit

theorem IsSignedDigits.notMem {cs : List Char} {n : SignedDigits} (h : IsSignedDigits cs n) {c : Char}
    (hsign : c ≠ '+' ∧ c ≠ '-') (hdigit : c.isDigit = false) : c ∉ cs := by
  cases h with
  | mk hs hdigits _ =>
    intro hmem
    rcases List.mem_append.mp hmem with hmem | hmem
    · cases hs with
      | absent => simp at hmem
      | plus => exact hsign.1 (List.mem_singleton.mp hmem)
      | minus => exact hsign.2 (List.mem_singleton.mp hmem)
    · exact ne_of_isDigit (hdigits c hmem) hdigit rfl

theorem space_notMem_of_classify {text : String} {t : Token} (h : classify text = some t) : ' ' ∉ text.toList := by
  cases (classify_eq_iff_reading text (some t)).mp h with
  | literal hform _ => exact hform.notMem (by decide) (by decide)
  | @operator op hsymbol =>
    rw [hsymbol]
    cases op <;> decide

theorem classify_text (t : Token) : classify t.text = some t := by
  cases t with
  | literal w => exact classify_word w
  | operator op => exact classify_symbol op

theorem Token.space_notMem_text (t : Token) : ' ' ∉ t.text.toList := space_notMem_of_classify (classify_text t)

/-- Tokens in print are read back one by one. -/
theorem Token.classify_splitSpaces_print {tokens : List Token} (hne : tokens ≠ []) :
    (splitSpaces (print tokens)).map classify = tokens.map some := by
  have hpieces : tokens.map text ≠ [] := by simpa using hne
  have hspace : ∀ p ∈ tokens.map text, ' ' ∉ p.toList := by
    rw [List.forall_mem_map]
    exact fun t _ => t.space_notMem_text
  rw [print, splitSpaces_intercalate hpieces hspace, List.map_map]
  exact List.map_congr_left fun t _ => classify_text t

theorem Infix.splitSpaces_text {source : List String} {e : Infix} (h : validate source = .ok e) :
    splitSpaces e.text = source := by
  obtain ⟨rfl, hclass⟩ := (validate_eq_ok_iff source e).mp h
  refine splitSpaces_intercalate ?_ ?_
  · intro hnil
    rw [hnil, List.map_nil, List.map_eq_nil_iff] at hclass
    exact List.cons_ne_nil _ _ hclass
  · intro token htoken
    have hmem := List.mem_map_of_mem (f := classify) htoken
    rw [← hclass, List.mem_map] at hmem
    obtain ⟨t, -, ht⟩ := hmem
    exact space_notMem_of_classify ht.symm

namespace Rpn

theorem tokens_ne_nil (p : Rpn) : p.tokens ≠ [] := by
  obtain ⟨t, rfl⟩ := p.exists_tree
  exact t.postorder_ne_nil

theorem classify_splitSpaces_text (p : Rpn) : (splitSpaces p.text).map classify = p.tokens.map some :=
  Token.classify_splitSpaces_print p.tokens_ne_nil

theorem text_injective {p q : Rpn} (h : p.text = q.text) : p = q := by
  have hclass := p.classify_splitSpaces_text
  rw [h, q.classify_splitSpaces_text] at hclass
  exact Rpn.ext (List.map_injective_iff.mpr (Option.some_injective _) hclass.symm)

end Rpn

/-- The expression that an outcome names is that of its request. -/
theorem Request.exists_outcome (tokens : List String) :
    ∃ o : Outcome, (run ⟨tokens⟩).result = .ok o ∧ o.expression = " ".intercalate tokens := by
  rcases calculate_cases tokens with ⟨w, hw⟩ | ⟨c, hc, -⟩
  · exact ⟨_, result_run_of_ok hw, rfl⟩
  · exact ⟨_, result_run_of_error hc, rfl⟩

/-- Cutting a valid expression in print at its spaces gives its tokens back, and the expression that its outcome
names is that print, so a run of the pieces is the run of the tokens. The pieces of a postfix sequence in print are
classified as its tokens, and no other sequence has the same print. -/
theorem print_is_read_back :
    (∀ tokens e, Infix.validate tokens = .ok e → splitSpaces e.text = tokens ∧
      ∃ o : Outcome, (Request.run ⟨tokens⟩).result = .ok o ∧ o.expression = e.text ∧
        Request.run ⟨splitSpaces o.expression⟩ = Request.run ⟨tokens⟩) ∧
    ∀ p : Rpn, (splitSpaces p.text).map classify = p.tokens.map some ∧ ∀ q : Rpn, q.text = p.text → q = p := by
  refine ⟨fun tokens e h => ⟨Infix.splitSpaces_text h, ?_⟩,
    fun p => ⟨p.classify_splitSpaces_text, fun q => Rpn.text_injective⟩⟩
  obtain ⟨rfl, -⟩ := (Infix.validate_eq_ok_iff tokens e).mp h
  obtain ⟨o, ho, hexpression⟩ := Request.exists_outcome e.source
  have htext : o.expression = e.text := hexpression
  exact ⟨o, ho, htext, by rw [htext, Infix.splitSpaces_text h]⟩

/-- A token that holds a space is not read back. -/
example : splitSpaces (" ".intercalate ["1 +", "2"]) = ["1", "+", "2"] := by
  cbv

end Calculator
