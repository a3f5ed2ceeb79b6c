import Calculator.Proofs.Places
import Calculator.Proofs.OperandVerdict

/-!
# Which token lists are accepted

Acceptance is a matter of each token in its place: literals stand at even places and operators at odd ones, as they
are classified. A list that is refused has a first fault, where an even length comes before all operands, and all
operands come before all operators.
-/

namespace Calculator

/-- An integer in the range of a word keeps to every limit of a decimal, however many zeros it starts with. -/
theorem SignedDigits.not_extreme {n : SignedDigits} (h : InRange n.value) :
    ¬n.numeral.Extreme := by
  have hcoefficient : Nat.ofDigitChars 10 n.digits 0 = n.value.natAbs := by
    rw [SignedDigits.value, natAbs_applySign]
  have hcount : digitCount (Nat.ofDigitChars 10 n.digits 0) ≤ 19 := by
    rw [inRange_iff] at h
    rw [digitCount_le_iff (by decide), hcoefficient]
    omega
  have hsignificant : Numeral.noExponent.significant.length = 0 := by decide
  have hexponent : Numeral.noExponent.value = 0 := rfl
  simp only [numeral, Numeral.Extreme, Numeral.decimal, Numeral.mantissa, List.append_nil, List.length_nil,
    hsignificant, hexponent, Decimal.Representable, Decimal.place, Decimal.maxPrecision, Decimal.minExponent,
    Decimal.maxExponent, maxExponentDigits]
  omega

/-- The check of an operand accepts what is classified as a literal, and nothing else. -/
theorem checkOperand_eq_ok_iff (token : String) (w : Word) :
    checkOperand token = .ok w ↔ classify token = some (.literal w) := by
  constructor
  · intro h
    unfold checkOperand at h
    split at h
    · simp at h
    · split at h
      · split at h
        · next hclass =>
          cases h
          exact hclass
        · simp at h
      · simp at h
  · intro h
    by_cases hform : ∃ n, IsSignedDigits token.toList n
    · -- As a numeral the integer has no exponent, and is converted however long it is.
      obtain ⟨n, hn⟩ := hform
      have hvalue : w.value = n.value := by
        rw [classify_of_signedDigits hn] at h
        rw [← Word.ofInt?_eq_some_iff]
        simpa using h
      have hrange : InRange n.value := hvalue ▸ w.inRange
      have hread := readReal_eq hn.isNumeral
      simp only [SignedDigits.not_extreme hrange, false_and, not_false_eq_true, true_and, false_or] at hread
      simp only [checkOperand, hread, if_pos (hn.inRange_decimal_iff.mpr hrange), h]
    · rw [classify_of_not_signedDigits (not_exists.mp hform)] at h
      simp at h

theorem Numeral.extremeError_names (n : Numeral) (token : String) :
    n.extremeError token = .invalidNumber token ∨ n.extremeError token = .numberOverflow token := by
  unfold extremeError
  split
  · exact .inl rfl
  · exact .inr rfl

/-- The error of an operand names the operand. -/
theorem checkOperand_eq_error {token : String} {c : CalcError} (h : checkOperand token = .error c) :
    c = .invalidNumber token ∨ c = .numberOverflow token := by
  have hread : ∀ c', readReal token = .error c' → c' = .invalidNumber token ∨ c' = .numberOverflow token := by
    intro c' hc'
    unfold readReal at hc'
    split at hc'
    · cases hc'
      exact .inl rfl
    · split at hc'
      · cases hc'
        exact Numeral.extremeError_names _ token
      · split at hc'
        · simp at hc'
        · cases hc'
          exact Numeral.extremeError_names _ token
  unfold checkOperand at h
  split at h
  · next c' hc' =>
    cases h
    exact hread c hc'
  · split at h
    · split at h
      · simp at h
      · cases h
        exact .inl rfl
    · cases h
      exact .inr rfl

theorem checkOperator_eq_ok_iff (token : String) (op : Operator) :
    Infix.checkOperator token = .ok op ↔ classify token = some (.operator op) := by
  rw [classify_eq_operator_iff, ← Operator.ofSymbol?_eq_some_iff, Infix.checkOperator]
  cases Operator.ofSymbol? token <;> simp

theorem checkOperator_eq_error_iff (token : String) (c : CalcError) :
    Infix.checkOperator token = .error c ↔ c = .invalidOperator token ∧ ∀ op : Operator, token ≠ op.symbol := by
  rw [← Operator.ofSymbol?_eq_none_iff, Infix.checkOperator]
  cases Operator.ofSymbol? token <;> simp [eq_comm]

namespace Infix

theorem validate_lineUp (head : String) (pairs : List (String × String)) :
    validate (lineUp head pairs) = (do
      let first ← checkOperand head
      let operands ← (pairs.map Prod.snd).mapM checkOperand
      let operators ← (pairs.map Prod.fst).mapM checkOperator
      return ⟨lineUp head pairs, first, operators.zip operands⟩) := by
  simp only [validate, pairUp_lineUp, List.mapM_map]
  rfl

/-- Pairs are checked by their halves, but accepted one by one. -/
theorem mapM_pairs_eq_ok_iff (pairs : List (String × String)) (rest : List (Operator × Word)) :
    (pairs.map Prod.snd).mapM checkOperand = .ok (rest.map Prod.snd) ∧
        (pairs.map Prod.fst).mapM checkOperator = .ok (rest.map Prod.fst) ↔
      pairs.map (Prod.map classify classify) =
        (rest.map (Prod.map .operator .literal)).map (Prod.map some some) := by
  rw [← List.forall₂_eq_eq_eq]
  simp only [mapM_eq_ok_iff, List.forall₂_map_left_iff, List.forall₂_map_right_iff, checkOperand_eq_ok_iff,
    checkOperator_eq_ok_iff, Prod.map, Prod.mk.injEq]
  constructor
  · rintro ⟨hsnd, hfst⟩
    exact hfst.mp (fun _ _ ho hw => ⟨ho, hw⟩) hsnd
  · intro h
    exact ⟨h.imp fun _ _ hp => hp.2, h.imp fun _ _ hp => hp.1⟩

/-- An expression is accepted from a list exactly if its tokens are those that the list is classified as. -/
theorem validate_eq_ok_iff (source : List String) (e : Infix) :
    validate source = .ok e ↔ e.source = source ∧ e.tokens.map some = source.map classify := by
  cases hpair : pairUp source with
  | none =>
    have heven := (pairUp_eq_none_iff source).mp hpair
    simp only [validate, hpair, reduceCtorEq, false_iff, not_and]
    intro _ h
    have hlength := congrArg List.length h
    rw [List.length_map, List.length_map, length_tokens] at hlength
    omega
  | some p =>
    obtain ⟨head, pairs⟩ := p
    obtain rfl := lineUp_of_pairUp hpair
    rw [validate_lineUp, tokens_eq_lineUp, map_lineUp, map_lineUp, lineUp_inj, eq_comm (a := some _),
      ← checkOperand_eq_ok_iff, eq_comm (b := pairs.map _), ← mapM_pairs_eq_ok_iff]
    simp only [bind_eq_ok_iff, pure, Except.pure, Except.ok.injEq]
    constructor
    · rintro ⟨first, hfirst, operands, hoperands, operators, hoperators, rfl⟩
      -- Zipping loses nothing: each of the two checks answers one item for every pair.
      have hlength : operators.length = operands.length := by
        have h₁ := ((mapM_eq_ok_iff _ _ _).mp hoperators).length_eq
        have h₂ := ((mapM_eq_ok_iff _ _ _).mp hoperands).length_eq
        simp only [List.length_map] at h₁ h₂
        omega
      rw [List.map_snd_zip (by omega), List.map_fst_zip (by omega)]
      exact ⟨rfl, hfirst, hoperands, hoperators⟩
    · rintro ⟨hsource, hfirst, hoperands, hoperators⟩
      refine ⟨_, hfirst, _, hoperands, _, hoperators, ?_⟩
      have hzip : e.rest = (e.rest.map Prod.fst).zip (e.rest.map Prod.snd) := List.zip_of_prod rfl rfl
      rw [← hzip, ← hsource]

/-- The operators of an expression are among its raw tokens. -/
theorem symbol_mem_of_validate {source : List String} {e : Infix} (h : validate source = .ok e)
    {p : Operator × Word} (hp : p ∈ e.rest) : p.1.symbol ∈ source := by
  obtain ⟨-, hclass⟩ := (validate_eq_ok_iff source e).mp h
  have hmem : Token.operator p.1 ∈ e.tokens := by
    simp only [tokens, alternate, List.mem_cons, List.mem_flatMap]
    exact .inr ⟨p, hp, by simp⟩
  have hsome := List.mem_map_of_mem (f := some) hmem
  rw [hclass, List.mem_map] at hsome
  obtain ⟨token, htoken, hsymbol⟩ := hsome
  rwa [(classify_eq_operator_iff token p.1).mp hsymbol] at htoken

/-- Two expressions with an operator between them. -/
def join (e : Infix) (op : Operator) (e' : Infix) : Infix :=
  ⟨e.source ++ op.symbol :: e'.source, e.first, e.rest ++ (op, e'.first) :: e'.rest⟩

theorem tokens_join (e : Infix) (op : Operator) (e' : Infix) :
    (e.join op e').tokens = e.tokens ++ .operator op :: e'.tokens := by
  simp [tokens, join, alternate]

theorem validate_join {xs ys : List String} {e e' : Infix} (hxs : validate xs = .ok e)
    (hys : validate ys = .ok e') (op : Operator) : validate (xs ++ op.symbol :: ys) = .ok (e.join op e') := by
  obtain ⟨rfl, hx⟩ := (validate_eq_ok_iff xs e).mp hxs
  obtain ⟨rfl, hy⟩ := (validate_eq_ok_iff ys e').mp hys
  rw [validate_eq_ok_iff]
  refine ⟨rfl, ?_⟩
  rw [tokens_join, List.map_append, List.map_append, hx, List.map_cons, List.map_cons, hy, classify_symbol]

theorem validate_word (w : Word) : validate [w.text] = .ok ⟨[w.text], w, []⟩ := by
  rw [validate_eq_ok_iff]
  simp [tokens, alternate]

end Infix

/-- Literals and operators in turn, where the first token and the last one are literals. -/
inductive Alternates : List Token → Prop where
  | one (w : Word) : Alternates [.literal w]
  | more {tokens : List Token} (w : Word) (op : Operator) (h : Alternates tokens) :
      Alternates (.literal w :: .operator op :: tokens)

/-- Every token is what its place asks for. -/
structure WellPlaced (source : List String) : Prop where
  odd : source.length % 2 = 1
  operands : ∀ i, ∀ token ∈ source[2 * i]?, ∃ w, classify token = some (.literal w)
  operators : ∀ i, ∀ token ∈ source[2 * i + 1]?, ∃ op : Operator, token = op.symbol

/-- The first rule that a list breaks, at the first place where it does. The operands to the left of a bad one
are good, while the operators there may be anything; the operands around a bad operator are all good. -/
inductive FirstFault (source : List String) : CalcError → Prop where
  | count (heven : source.length % 2 = 0) : FirstFault source .invalidInput
  | operand {i : Nat} {token : String} {c : CalcError} (hodd : source.length % 2 = 1)
      (htoken : source[2 * i]? = some token) (hbad : checkOperand token = .error c)
      (hbefore : ∀ j < i, ∀ t ∈ source[2 * j]?, ∃ w, checkOperand t = .ok w) : FirstFault source c
  | operator {i : Nat} {token : String} (hodd : source.length % 2 = 1)
      (hoperands : ∀ j, ∀ t ∈ source[2 * j]?, ∃ w, checkOperand t = .ok w)
      (htoken : source[2 * i + 1]? = some token) (hbad : ∀ op : Operator, token ≠ op.symbol)
      (hbefore : ∀ j < i, ∀ t ∈ source[2 * j + 1]?, ∃ op : Operator, t = op.symbol) :
      FirstFault source (.invalidOperator token)

namespace Infix

theorem alternates (e : Infix) : Alternates e.tokens := by
  obtain ⟨source, first, rest⟩ := e
  unfold tokens
  induction rest generalizing first with
  | nil => exact .one first
  | cons p rest ih => exact .more first p.1 (ih p.2)

/-- The operands are checked first, the one in front with the others. -/
theorem validate_lineUp_eq_error_iff (head : String) (pairs : List (String × String)) (c : CalcError) :
    validate (lineUp head pairs) = .error c ↔
      (head :: pairs.map Prod.snd).mapM checkOperand = .error c ∨
        (∃ ws, (head :: pairs.map Prod.snd).mapM checkOperand = .ok ws) ∧
          (pairs.map Prod.fst).mapM checkOperator = .error c := by
  rw [validate_lineUp, List.mapM_cons]
  cases checkOperand head with
  | error e => simp
  | ok first =>
    cases (pairs.map Prod.snd).mapM checkOperand with
    | error e => simp
    | ok operands =>
      cases (pairs.map Prod.fst).mapM checkOperator <;> simp [pure, Except.pure]

theorem validate_eq_error_iff (source : List String) (c : CalcError) :
    validate source = .error c ↔ FirstFault source c := by
  cases hpair : pairUp source with
  | none =>
    have heven := (pairUp_eq_none_iff source).mp hpair
    have hvalidate : validate source = .error .invalidInput := by simp [validate, hpair]
    rw [hvalidate, Except.error.injEq]
    constructor
    · rintro rfl
      exact .count heven
    · rintro (_ | hodd | hodd)
      · rfl
      · omega
      · omega
  | some p =>
    obtain ⟨head, pairs⟩ := p
    obtain rfl := lineUp_of_pairUp hpair
    have hodd : (lineUp head pairs).length % 2 = 1 := by
      rw [length_lineUp]
      omega
    rw [validate_lineUp_eq_error_iff, mapM_eq_error_iff, mapM_eq_error_iff, exists_mapM_eq_ok_iff]
    simp only [← getElem?_lineUp_even, ← getElem?_lineUp_odd head, checkOperator_eq_error_iff,
      checkOperator_eq_ok_iff, classify_eq_operator_iff]
    constructor
    · rintro (⟨i, token, htoken, hbad, hbefore⟩ | ⟨hoperands, i, token, htoken, ⟨rfl, hbad⟩, hbefore⟩)
      · exact .operand hodd htoken hbad hbefore
      · exact .operator hodd hoperands htoken hbad hbefore
    · rintro (heven | ⟨-, htoken, hbad, hbefore⟩ | ⟨-, hoperands, htoken, hbad, hbefore⟩)
      · omega
      · exact .inl ⟨_, _, htoken, hbad, hbefore⟩
      · exact .inr ⟨hoperands, _, _, htoken, ⟨rfl, hbad⟩, hbefore⟩

theorem wellPlaced_of_validate {source : List String} {e : Infix} (h : validate source = .ok e) :
    WellPlaced source := by
  obtain ⟨-, hclass⟩ := (validate_eq_ok_iff source e).mp h
  have hplace : ∀ (i : Nat), ∀ token ∈ source[i]?, ∃ t, e.tokens[i]? = some t ∧ classify token = some t := by
    intro i token htoken
    have hi := congrArg (·[i]?) hclass
    simp only [List.getElem?_map, Option.mem_def.mp htoken, Option.map_some, Option.map_eq_some_iff] at hi
    obtain ⟨t, ht, hclassify⟩ := hi
    exact ⟨t, ht, hclassify.symm⟩
  refine ⟨?_, ?_, ?_⟩
  · have hlength := congrArg List.length hclass
    rw [List.length_map, List.length_map, length_tokens] at hlength
    omega
  · intro i token htoken
    obtain ⟨t, ht, hclassify⟩ := hplace _ token htoken
    rw [getElem?_tokens_even, Option.map_eq_some_iff] at ht
    obtain ⟨w, -, rfl⟩ := ht
    exact ⟨w, hclassify⟩
  · intro i token htoken
    obtain ⟨t, ht, hclassify⟩ := hplace _ token htoken
    rw [getElem?_tokens_odd, Option.map_eq_some_iff] at ht
    obtain ⟨op, -, rfl⟩ := ht
    exact ⟨op, (classify_eq_operator_iff token op).mp hclassify⟩

end Infix

/-- A list is an expression exactly if every token is what its place asks for. The tokens of the expression are
then those that the list is classified as, one for each, and otherwise the first fault is reported. -/
theorem validate_decides_places (source : List String) :
    ((∃ e, Infix.validate source = .ok e) ↔ WellPlaced source) ∧
      (∀ e, Infix.validate source = .ok e →
        e.source = source ∧ e.tokens.map some = source.map classify ∧ Alternates e.tokens) ∧
      ∀ c, Infix.validate source = .error c ↔ FirstFault source c := by
  refine ⟨⟨?_, ?_⟩, ?_, Infix.validate_eq_error_iff source⟩
  · rintro ⟨e, he⟩
    exact Infix.wellPlaced_of_validate he
  · intro hplaced
    cases hvalidate : Infix.validate source with
    | ok e => exact ⟨e, rfl⟩
    | error c =>
      rcases (Infix.validate_eq_error_iff source c).mp hvalidate with
        heven | ⟨-, htoken, hbad, -⟩ | ⟨-, -, htoken, hbad, -⟩
      · have := hplaced.odd
        omega
      · obtain ⟨w, hw⟩ := hplaced.operands _ _ htoken
        rw [(checkOperand_eq_ok_iff _ w).mpr hw] at hbad
        simp at hbad
      · obtain ⟨op, hop⟩ := hplaced.operators _ _ htoken
        exact absurd hop (hbad op)
  · intro e he
    obtain ⟨hsource, hclass⟩ := (Infix.validate_eq_ok_iff source e).mp he
    exact ⟨hsource, hclass, e.alternates⟩

end Calculator
