import Mathlib.Data.List.Induction
import Calculator.Proofs.StackMachine

/-!
# The grammar of postfix sequences

The check of a postfix sequence only counts values, and it accepts what the grammar generates. It refuses any other
sequence for the first operator that has too few values before it, and if there is none for the two values or more
that the sequence leaves.
-/

namespace Calculator

/-- A literal, or two sequences of the grammar with an operator behind them. -/
inductive IsPostfix : List Token → Prop where
  | literal (w : Word) : IsPostfix [.literal w]
  | operation {xs ys : List Token} (op : Operator) (hx : IsPostfix xs) (hy : IsPostfix ys) :
      IsPostfix (xs ++ ys ++ [.operator op])

/-- A derivation is a tree, and what it derives is the postorder of the tree. -/
theorem isPostfix_iff_exists_tree (tokens : List Token) :
    IsPostfix tokens ↔ ∃ t : Tree, t.postorder = tokens := by
  constructor
  · intro h
    induction h with
    | literal w => exact ⟨.leaf w, rfl⟩
    | operation op _ _ ihx ihy =>
      obtain ⟨l, rfl⟩ := ihx
      obtain ⟨r, rfl⟩ := ihy
      exact ⟨.node l op r, rfl⟩
  · rintro ⟨t, rfl⟩
    induction t with
    | leaf w => exact .literal w
    | node l op r ihl ihr => exact .operation op ihl ihr

def Token.isLiteral : Token → Bool
  | .literal _ => true
  | .operator _ => false

/-- The number of literals less the number of operators. Where no operator is short of operands, this is the
number of values left. -/
def surplus (tokens : List Token) : Int :=
  tokens.countP Token.isLiteral - tokens.countP (!·.isLiteral)

@[simp] theorem surplus_nil : surplus [] = 0 := rfl
@[simp] theorem surplus_literal (w : Word) : surplus [.literal w] = 1 := rfl
@[simp] theorem surplus_operator (op : Operator) : surplus [.operator op] = -1 := rfl

@[simp] theorem surplus_append (xs ys : List Token) : surplus (xs ++ ys) = surplus xs + surplus ys := by
  simp only [surplus, List.countP_append]
  omega

/-- Before every operator at least two values are left. -/
def Supplied (tokens : List Token) : Prop :=
  ∀ before op after, tokens = before ++ .operator op :: after → 2 ≤ surplus before

theorem supplied_nil : Supplied [] := by
  intro before op after h
  simp at h

theorem supplied_append_singleton (tokens : List Token) (token : Token) :
    Supplied (tokens ++ [token]) ↔
      Supplied tokens ∧ ∀ op, token = .operator op → 2 ≤ surplus tokens := by
  constructor
  · intro h
    refine ⟨?_, ?_⟩
    · rintro before op after rfl
      exact h before op (after ++ [token]) (by simp)
    · rintro op rfl
      exact h tokens op [] rfl
  · rintro ⟨hinit, hlast⟩ before op after h
    rcases List.eq_nil_or_concat after with rfl | ⟨after, last, rfl⟩
    · obtain ⟨rfl, htoken⟩ := List.append_inj' h rfl
      exact hlast op (List.singleton_inj.mp htoken)
    · rw [List.concat_eq_append, ← List.cons_append, ← List.append_assoc] at h
      exact hinit before op after (List.append_inj' h rfl).1

/-- What is not supplied has a first operator that is short of operands. -/
theorem supplied_or_exists_short (tokens : List Token) :
    Supplied tokens ∨ ∃ before op after, tokens = before ++ .operator op :: after ∧
      Supplied before ∧ surplus before < 2 := by
  induction tokens using List.reverseRecOn with
  | nil => exact .inl supplied_nil
  | append_singleton tokens token ih =>
    rcases ih with hinit | ⟨before, op, after, rfl, hbefore, hshort⟩
    · by_cases hlast : ∃ op, token = .operator op ∧ surplus tokens < 2
      · obtain ⟨op, rfl, hshort⟩ := hlast
        exact .inr ⟨tokens, op, [], rfl, hinit, hshort⟩
      · refine .inl ((supplied_append_singleton tokens token).mpr ⟨hinit, fun op hop => ?_⟩)
        exact Int.not_lt.mp fun hshort => hlast ⟨op, hop, hshort⟩
    · exact .inr ⟨before, op, after ++ [token], by simp, hbefore, hshort⟩

/-- As long as all operators are supplied, the count is the surplus. -/
theorem Supplied.exists_depth {tokens : List Token} (h : Supplied tokens) :
    ∃ d : Nat, tokens.foldlM depthStep 0 = .ok d ∧ (d : Int) = surplus tokens := by
  induction tokens using List.reverseRecOn with
  | nil => exact ⟨0, rfl, rfl⟩
  | append_singleton tokens token ih =>
    obtain ⟨hinit, hlast⟩ := (supplied_append_singleton tokens token).mp h
    obtain ⟨d, hrun, hd⟩ := ih hinit
    simp only [List.foldlM_append, hrun, ok_bind, List.foldlM_cons, List.foldlM_nil, bind_pure]
    -- The count is a natural number, so it can follow the surplus down only because the operator is supplied.
    cases token with
    | literal w => exact ⟨d + 1, rfl, by simp [hd]⟩
    | operator op =>
      have htwo := hlast op rfl
      refine ⟨d - 1, (depthStep_operator_eq_ok_iff d _ op).mpr ⟨d - 2, by omega, by omega⟩, ?_⟩
      rw [surplus_append, surplus_operator]
      omega

/-- A literal leaves one value more, and an operator that is supplied leaves one of two or more. -/
theorem Supplied.surplus_pos {tokens : List Token} (h : Supplied tokens) (hne : tokens ≠ []) :
    1 ≤ surplus tokens := by
  rcases List.eq_nil_or_concat tokens with rfl | ⟨init, last, rfl⟩
  · exact absurd rfl hne
  rw [List.concat_eq_append] at h ⊢
  obtain ⟨hinit, hlast⟩ := (supplied_append_singleton init last).mp h
  rw [surplus_append]
  cases last with
  | literal w =>
    obtain ⟨d, -, hd⟩ := hinit.exists_depth
    rw [surplus_literal]
    omega
  | operator op =>
    have htwo := hlast op rfl
    rw [surplus_operator]
    omega

/-- What is wrong with a sequence that is not postfix. An operator that is short of operands comes before a
wrong number of values at the end, and the first such operator before the others. -/
inductive Flaw (tokens : List Token) : Malformed → Prop where
  | empty (hempty : tokens = []) : Flaw tokens .empty
  | missingOperand {before after : List Token} {op : Operator}
      (htokens : tokens = before ++ .operator op :: after) (hbefore : Supplied before)
      (hshort : surplus before < 2) : Flaw tokens (.missingOperand op)
  | leftover {n : Nat} (hsupplied : Supplied tokens) (hleft : n = surplus tokens) (hmany : 2 ≤ n) :
      Flaw tokens (.leftover n)

theorem Flaw.sound {tokens : List Token} {m : Malformed} (h : Flaw tokens m) :
    checkPostfix tokens = .error m := by
  cases h with
  | empty hempty => exact if_pos hempty
  | @missingOperand before after op htokens hbefore hshort =>
    obtain ⟨d, hrun, hd⟩ := hbefore.exists_depth
    have hstep : depthStep d (.operator op) = .error (.missingOperand op) := if_pos (by omega)
    simp [checkPostfix, htokens, List.foldlM_append, hrun, hstep]
  | @leftover n hsupplied hleft hmany =>
    obtain ⟨d, hrun, hd⟩ := hsupplied.exists_depth
    obtain rfl : d = n := by omega
    have hne : tokens ≠ [] := by
      rintro rfl
      rw [surplus_nil] at hleft
      omega
    have hone : d ≠ 1 := by omega
    simp [checkPostfix, hne, hrun, hone]

/-- A sequence without a flaw leaves one value, and is accepted. -/
theorem checkPostfix_or_flaw (tokens : List Token) :
    checkPostfix tokens = .ok () ∨ ∃ m, Flaw tokens m := by
  by_cases hempty : tokens = []
  · exact .inr ⟨.empty, .empty hempty⟩
  rcases supplied_or_exists_short tokens with hsupplied | ⟨before, op, after, htokens, hbefore, hshort⟩
  · obtain ⟨d, hrun, hd⟩ := hsupplied.exists_depth
    have hpos := hsupplied.surplus_pos hempty
    by_cases hone : d = 1
    · exact .inl (by simp [checkPostfix, hempty, hrun, hone])
    · exact .inr ⟨.leftover d, .leftover hsupplied hd (by omega)⟩
  · exact .inr ⟨.missingOperand op, .missingOperand htokens hbefore hshort⟩

theorem checkPostfix_eq_error_iff (tokens : List Token) (m : Malformed) :
    checkPostfix tokens = .error m ↔ Flaw tokens m := by
  constructor
  · intro h
    rcases checkPostfix_or_flaw tokens with hok | ⟨m', hflaw⟩
    · simp [hok] at h
    · rw [hflaw.sound, Except.error.injEq] at h
      exact h ▸ hflaw
  · exact Flaw.sound

namespace Rpn

theorem ofTokens_eq_error_iff (tokens : List Token) (m : Malformed) :
    ofTokens tokens = .error m ↔ checkPostfix tokens = .error m := by
  unfold ofTokens
  split
  · next h => simp [h]
  · next m' h => simp [h]

theorem build_eq_ok_iff (tokens : List Token) (p : Rpn) : build tokens = .ok p ↔ p.tokens = tokens := by
  rw [← ofTokens_eq_ok_iff, build]
  cases ofTokens tokens <;> simp [Checked.refuse]

theorem build_eq_error_iff (tokens : List Token) (errors : List FieldError) :
    build tokens = .error errors ↔ ∃ m, Flaw tokens m ∧ errors = [⟨[.field "tokens"], m.problem⟩] := by
  simp only [← checkPostfix_eq_error_iff, ← ofTokens_eq_error_iff, build]
  cases ofTokens tokens <;> simp [Checked.refuse, eq_comm]

end Rpn

/-- As many literals as an operator needs, but it comes before the second of them. -/
example (w : Word) : Rpn.build [.literal w, .operator .mod, .literal w] =
    .error [⟨[.field "tokens"], .rule "Operator % is missing an operand"⟩] :=
  rfl

end Calculator
