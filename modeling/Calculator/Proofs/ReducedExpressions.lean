import Calculator.Proofs.Acceptance
import Calculator.Proofs.Calculations

/-!
# Smaller expressions in place of others

What an error carries is enough to write down a shortest expression that fails with the very same error: a token
alone, a token between zeros, or an operator between the two operands of the failing step. An operator that does not
bind into the expression before it finds that expression fully evaluated, so a prefix that fails fails the whole, and
one that has a value may be replaced by that value in print. An additive operator never binds into what is before it,
and a multiplicative one does not if there is only one term before it.
-/

namespace Calculator

/-- A shortest expression that fails with the error, made from what the error carries. -/
def CalcError.smallest : CalcError → List String
  | .invalidInput => []
  | .invalidNumber token | .numberOverflow token => [token]
  | .invalidOperator token => ["0", token, "0"]
  | .divisionByZero dividend op => [toString dividend, op.symbol, "0"]
  | .outOfBounds left right op => [toString left, op.symbol, toString right]

theorem smallest_of_checkOperand {token : String} {c : CalcError} (h : checkOperand token = .error c) :
    c.smallest = [token] := by
  rcases checkOperand_eq_error h with rfl | rfl <;> rfl

theorem FirstFault.validate_smallest {source : List String} {c : CalcError} (h : FirstFault source c) :
    Infix.validate c.smallest = .error c := by
  cases h with
  | count _ => rfl
  | operand _ _ hbad _ => simp [smallest_of_checkOperand hbad, Infix.validate, Infix.pairUp, hbad]
  | @operator _ token _ _ _ hbad _ =>
    have hzero : checkOperand "0" = .ok ⟨0, by decide⟩ := rfl
    have hoperator : Infix.checkOperator token = .error (.invalidOperator token) :=
      (checkOperator_eq_error_iff token _).mpr ⟨rfl, hbad⟩
    simp [CalcError.smallest, Infix.validate, Infix.pairUp, hzero, hoperator, pure, Except.pure]

theorem Operator.smallest_of_apply {op : Operator} {a b : Int} {c : CalcError} (h : op.apply a b = .error c) :
    c.smallest = [toString a, op.symbol, toString b] := by
  unfold Operator.apply at h
  split at h
  · next hzero =>
    cases h
    rw [hzero.2]
    rfl
  · split at h
    · simp at h
    · cases h
      rfl

/-- One operator between two printed words is applied to these words. -/
theorem calculate_operation (a b : Word) (op : Operator) :
    calculate [a.text, op.symbol, b.text] = Failure.ofError (op.apply a.value b.value) := by
  have hvalidate := Infix.validate_join (Infix.validate_word a) (Infix.validate_word b) op
  refine (calculate_of_validate hvalidate).trans (congrArg Failure.ofError ?_)
  cases hop : op.isAdditive <;> simp [Infix.join, Infix.terms, Terms.cut, Terms.eval, Term.eval, hop]

/-- No list with the same first fault is shorter. -/
theorem FirstFault.length_smallest_le {source : List String} {c : CalcError} (h : FirstFault source c) :
    c.smallest.length ≤ source.length := by
  cases h with
  | count _ => exact Nat.zero_le _
  | operand hodd _ hbad _ =>
    rw [smallest_of_checkOperand hbad, List.length_singleton]
    omega
  | @operator _ token hodd _ htoken _ _ =>
    -- There is a token at an odd place, and the count of tokens is odd.
    obtain ⟨hplace, -⟩ := List.getElem?_eq_some_iff.mp htoken
    have hsmallest : (CalcError.invalidOperator token).smallest.length = 3 := rfl
    omega

/-- An operator that fails stands in an expression of three tokens or more. -/
theorem Infix.three_le_length {source : List String} {e : Infix} {c : CalcError}
    (h : validate source = .ok e) (heval : e.tree.eval = .error c) : 3 ≤ source.length := by
  obtain ⟨-, hclass⟩ := (validate_eq_ok_iff source e).mp h
  have hlength := congrArg List.length hclass
  rw [List.length_map, List.length_map, length_tokens] at hlength
  have hrest : e.rest ≠ [] := by
    intro hnil
    simp [tree, terms, hnil, Terms.cut, Terms.tree, Term.tree, Tree.eval] at heval
  have hpos := List.length_pos_iff.mpr hrest
  omega

/-- Whatever makes a calculation fail, the smallest expression made from the error fails with the same error,
and no list that does so is shorter. -/
theorem calculate_smallest (tokens : List String) (f : Failure) (h : calculate tokens = .error f) :
    ∃ c, f = .error c ∧ calculate c.smallest = .error (.error c) ∧ c.smallest.length ≤ tokens.length := by
  rcases calculate_cases tokens with ⟨w, hw⟩ | ⟨c, hc, hcause⟩
  · simp [hw] at h
  rw [hc] at h
  cases h
  refine ⟨c, rfl, ?_⟩
  rcases hcause with hvalidate | ⟨e, he, heval⟩
  · have hfault := (Infix.validate_eq_error_iff tokens c).mp hvalidate
    refine ⟨?_, hfault.length_smallest_le⟩
    rw [calculate_eq, hfault.validate_smallest]
    rfl
  · obtain ⟨a, b, op, happly⟩ := Tree.exists_apply_of_eval heval
    have hoperation := calculate_operation a b op
    rw [happly] at hoperation
    rw [Operator.smallest_of_apply happly]
    exact ⟨hoperation, Infix.three_le_length he heval⟩

/-- The left operand at fault is the lower end of the range, a value that no token of the first list has. -/
theorem calculate_smallest_overflow :
    calculate ["-9223372036854775807", "-", "7", "%", "2", "-", "2", "/", "+1"] =
        .error (.error (.outOfBounds (-9223372036854775808) 2 .sub)) ∧
      calculate ["-9223372036854775808", "-", "2"] =
        .error (.error (.outOfBounds (-9223372036854775808) 2 .sub)) := by
  have h : calculate ["-9223372036854775807", "-", "7", "%", "2", "-", "2", "/", "+1"] =
      .error (.error (.outOfBounds (-9223372036854775808) 2 .sub)) := rfl
  obtain ⟨c, hc, hsmallest, -⟩ := calculate_smallest _ _ h
  cases hc
  exact ⟨h, hsmallest⟩

/-- The operators of a term, applied from a value on. -/
def Term.evalRest (a : Int) (rest : List (Operator × Word)) : Except CalcError Int :=
  rest.foldlM (fun a (op, w) => op.apply a w.value) a

theorem Term.evalRest_append (a : Int) (xs ys : List (Operator × Word)) :
    evalRest a (xs ++ ys) = evalRest a xs >>= fun b => evalRest b ys :=
  List.foldlM_append

namespace Terms

/-- The operators between terms, applied from a value on. -/
def evalRest (a : Int) (rest : List (Operator × Term)) : Except CalcError Int :=
  rest.foldlM (fun a (op, t) => do op.apply a (← t.eval)) a

/-- Evaluation that goes on from a value. An additive operator joins the value to the first term; a
multiplicative one makes the value the start of that term. -/
def resume (s : Terms) (op : Operator) (a : Int) : Except CalcError Int :=
  if op.isAdditive then evalRest a ((op, s.first) :: s.rest)
  else Term.evalRest a ((op, s.first.first) :: s.first.rest) >>= fun b => evalRest b s.rest

theorem eval_eq (s : Terms) :
    s.eval = Term.evalRest s.first.first.value s.first.rest >>= fun a => evalRest a s.rest :=
  rfl

@[simp] theorem evalRest_nil (a : Int) : evalRest a [] = pure a := rfl

theorem evalRest_append (a : Int) (xs ys : List (Operator × Term)) :
    evalRest a (xs ++ ys) = evalRest a xs >>= fun b => evalRest b ys :=
  List.foldlM_append

variable {op : Operator} {before : List (Operator × Word)}

theorem resume_additive (h : op.isAdditive = true) (s : Terms) :
    s.resume op = fun a => evalRest a ((op, s.first) :: s.rest) := by
  funext a
  exact if_pos h

theorem resume_multiplicative (h : op.isAdditive = false) (s : Terms) :
    s.resume op = fun a =>
      Term.evalRest a ((op, s.first.first) :: s.first.rest) >>= fun b => evalRest b s.rest := by
  funext a
  simp [resume, h]

theorem cut_append_additive (h : op.isAdditive = true) (first w : Word)
    (before after : List (Operator × Word)) :
    cut first (before ++ (op, w) :: after) =
      ⟨(cut first before).first,
        (cut first before).rest ++ (op, (cut w after).first) :: (cut w after).rest⟩ := by
  induction before generalizing first with
  | nil => exact cut_additive h first w after
  | cons p before ih =>
    obtain ⟨o, u⟩ := p
    cases ho : o.isAdditive with
    | true => rw [List.cons_append, cut_additive ho, cut_additive ho, ih, List.cons_append]
    | false => rw [List.cons_append, cut_multiplicative ho, cut_multiplicative ho, ih]

theorem cut_of_multiplicative (h : ∀ p ∈ before, p.1.isAdditive = false) (first : Word) :
    cut first before = ⟨⟨first, before⟩, []⟩ := by
  induction before generalizing first with
  | nil => rfl
  | cons p before ih =>
    obtain ⟨hp, hbefore⟩ := List.forall_mem_cons.mp h
    rw [cut_multiplicative hp, ih hbefore]

theorem cut_append_multiplicative (hop : op.isAdditive = false) (h : ∀ p ∈ before, p.1.isAdditive = false)
    (first w : Word) (after : List (Operator × Word)) :
    cut first (before ++ (op, w) :: after) =
      ⟨⟨first, before ++ (op, (cut w after).first.first) :: (cut w after).first.rest⟩, (cut w after).rest⟩ := by
  induction before generalizing first with
  | nil => exact cut_multiplicative hop first w after
  | cons p before ih =>
    obtain ⟨hp, hbefore⟩ := List.forall_mem_cons.mp h
    rw [List.cons_append, cut_multiplicative hp, ih hbefore, List.cons_append]

/-- The part before an operator that does not bind into it is evaluated first, and the rest sees its value only. -/
theorem eval_cut_append (h : op.isAdditive = true ∨ ∀ p ∈ before, p.1.isAdditive = false) (first w : Word)
    (after : List (Operator × Word)) :
    (cut first (before ++ (op, w) :: after)).eval = (cut first before).eval >>= (cut w after).resume op := by
  cases hop : op.isAdditive with
  | true =>
    rw [cut_append_additive hop, resume_additive hop]
    simp only [eval_eq, evalRest_append, bind_assoc]
  | false =>
    have hbefore : ∀ p ∈ before, p.1.isAdditive = false := by
      rcases h with h | h
      · simp [hop] at h
      · exact h
    rw [cut_append_multiplicative hop hbefore, cut_of_multiplicative hbefore, resume_multiplicative hop]
    simp only [eval_eq, Term.evalRest_append, evalRest_nil, bind_assoc, bind_pure]

end Terms

theorem calculate_join {xs ys : List String} {e e' : Infix} (op : Operator) (hxs : Infix.validate xs = .ok e)
    (hys : Infix.validate ys = .ok e') (hop : op.isAdditive = true ∨ ∀ p ∈ e.rest, p.1.isAdditive = false) :
    calculate (xs ++ op.symbol :: ys) = Failure.ofError (e.terms.eval >>= e'.terms.resume op) := by
  rw [calculate_of_validate (Infix.validate_join hxs hys op)]
  exact congrArg Failure.ofError (Terms.eval_cut_append hop e.first e'.first e'.rest)

theorem calculate_word (w : Word) : calculate [w.text] = .ok w.value :=
  calculate_of_validate (Infix.validate_word w)

theorem calculate_word_join (w : Word) (op : Operator) {ys : List String} {e' : Infix}
    (hys : Infix.validate ys = .ok e') :
    calculate ([w.text, op.symbol] ++ ys) = Failure.ofError (e'.terms.resume op w.value) := by
  have hjoin := calculate_join op (Infix.validate_word w) hys (.inr (by simp))
  have hword : Infix.terms ⟨[w.text], w, []⟩ = ⟨⟨w, []⟩, []⟩ := rfl
  rw [hword] at hjoin
  exact hjoin

/-- A valid expression before an operator that does not bind into it decides alone whether it fails, and its
value in print does the same as itself. -/
theorem calculate_prefix_value {xs ys : List String} {e e' : Infix} (op : Operator)
    (hxs : Infix.validate xs = .ok e) (hys : Infix.validate ys = .ok e')
    (hop : op = .add ∨ op = .sub ∨ "+" ∉ xs ∧ "-" ∉ xs) :
    (∀ f, calculate xs = .error f → calculate (xs ++ [op.symbol] ++ ys) = .error f) ∧
      ∀ v, calculate xs = .ok v →
        calculate (xs ++ [op.symbol] ++ ys) = calculate ([toString v, op.symbol] ++ ys) ∧
          calculate [toString v] = .ok v := by
  have hbind : op.isAdditive = true ∨ ∀ p ∈ e.rest, p.1.isAdditive = false := by
    rcases hop with rfl | rfl | ⟨hadd, hsub⟩
    · exact .inl rfl
    · exact .inl rfl
    · refine .inr fun p hp => ?_
      have hsymbol := Infix.symbol_mem_of_validate hxs hp
      cases ho : p.1 with
      | add =>
        rw [ho] at hsymbol
        exact absurd hsymbol hadd
      | sub =>
        rw [ho] at hsymbol
        exact absurd hsymbol hsub
      | mul | div | mod => rfl
  have hwhole := calculate_join op hxs hys hbind
  have hprefix := calculate_of_validate hxs
  rw [List.append_assoc, List.singleton_append, hwhole, hprefix]
  cases heval : e.terms.eval with
  | error c => simp
  | ok v =>
    simp only [Failure.ofError_ok, reduceCtorEq, false_imp_iff, implies_true, Except.ok.injEq, true_and]
    rintro _ rfl
    rw [← Terms.eval_tree] at heval
    have hrange := Tree.inRange_of_eval heval
    exact ⟨(calculate_word_join ⟨v, hrange⟩ op hys).symm, calculate_word ⟨v, hrange⟩⟩

/-- The value is the lower end of the range, and its quotient by what follows overflows. -/
theorem calculate_prefix_lowest :
    calculate ["-4611686018427387904", "x", "2"] = .ok (-9223372036854775808) ∧
      calculate ["-4611686018427387904", "x", "2", "/", "-1", "+", "3"] =
        calculate ["-9223372036854775808", "/", "-1", "+", "3"] ∧
      calculate ["-9223372036854775808"] = .ok (-9223372036854775808) := by
  have hxs : Infix.validate ["-4611686018427387904", "x", "2"] =
      .ok ⟨_, ⟨-4611686018427387904, by decide⟩, [(.mul, ⟨2, by decide⟩)]⟩ := rfl
  have hys : Infix.validate ["-1", "+", "3"] = .ok ⟨_, ⟨-1, by decide⟩, [(.add, ⟨3, by decide⟩)]⟩ := rfl
  have hvalue : calculate ["-4611686018427387904", "x", "2"] = .ok (-9223372036854775808) := rfl
  obtain ⟨-, h⟩ := calculate_prefix_value .div hxs hys (.inr (.inr (by decide)))
  obtain ⟨hsame, hword⟩ := h _ hvalue
  exact ⟨hvalue, hsame, hword⟩

end Calculator
