import Calculator.Proofs.TreeEvaluation

/-!
# Evaluation on a stack

The check counts values and the machine keeps them, and on well-formed postfix the two stay in step: the machine never
runs short of values, and holds words only. A well-formed sequence is the postorder of exactly one tree, and the
machine evaluates that tree from left to right.
-/

namespace Calculator

@[simp] theorem depthStep_literal (d : Nat) (w : Word) : depthStep d (.literal w) = .ok (d + 1) := rfl

theorem depthStep_operator_eq_ok_iff (d d' : Nat) (op : Operator) :
    depthStep d (.operator op) = .ok d' ↔ ∃ k, d = k + 2 ∧ d' = k + 1 := by
  simp only [depthStep]
  by_cases h : d < 2
  · rw [if_pos h]
    simp only [reduceCtorEq, false_iff, not_exists, not_and]
    omega
  · rw [if_neg h, Except.ok.injEq]
    constructor
    · intro hd
      exact ⟨d - 2, by omega, by omega⟩
    · rintro ⟨k, rfl, rfl⟩
      omega

namespace Tree

/-- The token sequence that leaves the given trees on a stack, top first. -/
def spell : List Tree → List Token
  | [] => []
  | t :: below => spell below ++ t.postorder

@[simp] theorem spell_nil : spell [] = [] := rfl
@[simp] theorem spell_cons (t : Tree) (below : List Tree) :
    spell (t :: below) = spell below ++ t.postorder := rfl

/-- A tree adds one value, whatever is below it. -/
theorem foldlM_depthStep_postorder (t : Tree) (d : Nat) :
    t.postorder.foldlM depthStep d = .ok (d + 1) := by
  induction t generalizing d with
  | leaf w => rfl
  | node l op r ihl ihr =>
    have hop : depthStep (d + 1 + 1) (.operator op) = .ok (d + 1) :=
      (depthStep_operator_eq_ok_iff _ _ op).mpr ⟨d, rfl, rfl⟩
    simp only [postorder_node, List.foldlM_append, ihl, ihr, List.foldlM_cons, List.foldlM_nil]
    exact hop

theorem checkPostfix_postorder (t : Tree) : checkPostfix t.postorder = .ok () := by
  simp [checkPostfix, postorder_ne_nil, foldlM_depthStep_postorder]

/-- One token more leaves trees again: a literal is a new leaf, an operator joins the upper two. -/
theorem exists_spell_step {f : List Tree} {token : Token} {d : Nat}
    (h : depthStep f.length token = .ok d) :
    ∃ g, g.length = d ∧ spell g = spell f ++ [token] := by
  cases token with
  | literal w =>
    rw [depthStep_literal, Except.ok.injEq] at h
    exact ⟨.leaf w :: f, h, rfl⟩
  | operator op =>
    obtain ⟨k, hlen, rfl⟩ := (depthStep_operator_eq_ok_iff _ _ op).mp h
    match f, hlen with
    | r :: l :: below, hlen =>
      simp only [List.length_cons, Nat.add_right_cancel_iff] at hlen
      exact ⟨.node l op r :: below, by rw [List.length_cons, hlen], by simp⟩

theorem exists_spell_run {f : List Tree} {tokens : List Token} {d : Nat}
    (h : tokens.foldlM depthStep f.length = .ok d) :
    ∃ g, g.length = d ∧ spell g = spell f ++ tokens := by
  induction tokens generalizing f with
  | nil =>
    simp only [List.foldlM_nil, pure, Except.pure, Except.ok.injEq] at h
    exact ⟨f, h, by simp⟩
  | cons token tokens ih =>
    rw [List.foldlM_cons, bind_eq_ok_iff] at h
    obtain ⟨d', hstep, hrun⟩ := h
    obtain ⟨g, rfl, hg⟩ := exists_spell_step hstep
    obtain ⟨g', hlen, hg'⟩ := ih hrun
    exact ⟨g', hlen, by rw [hg', hg, List.append_assoc, List.singleton_append]⟩

end Tree

/-- What the check accepts are the postorders of trees. -/
theorem checkPostfix_eq_ok_iff (tokens : List Token) :
    checkPostfix tokens = .ok () ↔ ∃ t : Tree, t.postorder = tokens := by
  constructor
  · intro h
    unfold checkPostfix at h
    split at h
    · simp at h
    · split at h
      · next d hd =>
        split at h
        · next hone =>
          obtain ⟨g, hlen, hg⟩ := Tree.exists_spell_run (f := []) hd
          obtain ⟨t, rfl⟩ := List.length_eq_one_iff.mp (hlen.trans hone)
          exact ⟨t, by simpa using hg⟩
        · simp at h
      · simp at h
  · rintro ⟨t, rfl⟩
    exact t.checkPostfix_postorder

/-- The sequence of a tree, which needs no check. -/
def Tree.toRpn (t : Tree) : Rpn := ⟨t.postorder, t.checkPostfix_postorder⟩

namespace Rpn

theorem exists_tree (p : Rpn) : ∃ t : Tree, t.toRpn = p := by
  obtain ⟨t, ht⟩ := (checkPostfix_eq_ok_iff p.tokens).mp p.wellFormed
  exact ⟨t, Rpn.ext ht⟩

@[simp] theorem evalStep_literal (stack : List Int) (w : Word) :
    evalStep stack (.literal w) = .ok (w.value :: stack) := rfl

@[simp] theorem evalStep_operator (a b : Int) (below : List Int) (op : Operator) :
    evalStep (b :: a :: below) (.operator op) =
      (Failure.ofError (op.apply a b)).map (· :: below) := rfl

/-- The machine holds the counted number of values, all of them words, or an operator has failed. -/
def Intact (depth : Nat) : Except Failure (List Int) → Prop
  | .ok stack => stack.length = depth ∧ ∀ v ∈ stack, InRange v
  | .error f => ∃ e, f = .error e

theorem intact_step {stack : List Int} {token : Token} {d : Nat} (hv : ∀ v ∈ stack, InRange v)
    (h : depthStep stack.length token = .ok d) : Intact d (evalStep stack token) := by
  cases token with
  | literal w =>
    rw [depthStep_literal, Except.ok.injEq] at h
    refine ⟨h, ?_⟩
    intro v hmem
    rcases List.mem_cons.mp hmem with rfl | hmem
    · exact w.inRange
    · exact hv v hmem
  | operator op =>
    obtain ⟨k, hlen, rfl⟩ := (depthStep_operator_eq_ok_iff _ _ op).mp h
    match stack, hlen with
    | b :: a :: below, hlen =>
      simp only [List.length_cons, Nat.add_right_cancel_iff] at hlen
      rw [evalStep_operator]
      cases happly : op.apply a b with
      | error e => exact ⟨e, rfl⟩
      | ok v =>
        refine ⟨by rw [List.length_cons, hlen], ?_⟩
        intro u hmem
        rcases List.mem_cons.mp hmem with rfl | hmem
        · exact Operator.inRange_of_apply happly
        · exact hv u (by simp [hmem])

theorem intact_run {tokens : List Token} {stack : List Int} {d : Nat}
    (hv : ∀ v ∈ stack, InRange v) (h : tokens.foldlM depthStep stack.length = .ok d) :
    Intact d (tokens.foldlM evalStep stack) := by
  induction tokens generalizing stack with
  | nil =>
    simp only [List.foldlM_nil, pure, Except.pure, Except.ok.injEq] at h
    exact ⟨h, hv⟩
  | cons token tokens ih =>
    rw [List.foldlM_cons, bind_eq_ok_iff] at h
    obtain ⟨d', hd, hrun⟩ := h
    have hstep := intact_step hv hd
    rw [List.foldlM_cons]
    cases hs : evalStep stack token with
    | error f =>
      rw [hs] at hstep
      exact hstep
    | ok stack' =>
      rw [hs] at hstep
      obtain ⟨rfl, hv'⟩ := hstep
      exact ih hv' hrun

/-- The count reaches some depth after every part of a well-formed sequence. -/
theorem exists_depth (p : Rpn) {part : List Token} (h : part <+: p.tokens) :
    ∃ d, part.foldlM depthStep 0 = .ok d := by
  obtain ⟨t, rfl⟩ := p.exists_tree
  obtain ⟨rest, hrest⟩ := h
  have hall := t.foldlM_depthStep_postorder 0
  change part ++ rest = t.postorder at hrest
  rw [← hrest, List.foldlM_append, bind_eq_ok_iff] at hall
  obtain ⟨d, hpart, -⟩ := hall
  exact ⟨d, hpart⟩

theorem exists_intact (p : Rpn) {part : List Token} (h : part <+: p.tokens) :
    ∃ d, Intact d (part.foldlM evalStep []) := by
  obtain ⟨d, hd⟩ := p.exists_depth h
  exact ⟨d, intact_run (by simp) hd⟩

/-- A tree leaves its value on whatever is below it. -/
theorem foldlM_evalStep_postorder (t : Tree) (stack : List Int) :
    t.postorder.foldlM evalStep stack = (Failure.ofError t.eval).map (· :: stack) := by
  induction t generalizing stack with
  | leaf w => rfl
  | node l op r ihl ihr =>
    simp only [Tree.postorder_node, List.foldlM_append, ihl, Tree.eval]
    cases l.eval with
    | error e => rfl
    | ok a =>
      simp only [Failure.ofError_ok, Except.map, ok_bind, ihr]
      cases r.eval with
      | error e => rfl
      | ok b =>
        simp only [Failure.ofError_ok, ok_bind, List.foldlM_cons, List.foldlM_nil, evalStep_operator]
        cases op.apply a b <;> rfl

theorem evaluate_toRpn (t : Tree) : t.toRpn.evaluate = Failure.ofError t.eval := by
  have hrun : t.toRpn.tokens.foldlM evalStep [] = _ := foldlM_evalStep_postorder t []
  unfold evaluate
  rw [hrun]
  cases t.eval <;> rfl

/-- A well-formed sequence is the postorder of one tree only, and running it is evaluating that tree from
left to right, up to the first application that fails. One value is left at the end. No part of the run
finds too few values, and every value it holds is a word. -/
theorem evaluate_simulation (p : Rpn) :
    ∃ t : Tree, t.postorder = p.tokens ∧ (∀ u : Tree, u.postorder = p.tokens → u = t) ∧
      p.evaluate = Failure.ofError t.eval ∧
      p.tokens.foldlM evalStep [] = (Failure.ofError t.eval).map ([·]) ∧
      (∀ e, p.evaluate = .error (.error e) ↔
        ∃ before a after, t.applications = before ++ a :: after ∧ (∀ b ∈ before, b.Sound) ∧
          a.op.apply a.left a.right = .error e) ∧
      ∀ part, part <+: p.tokens →
        part.foldlM evalStep [] ≠ .error .emptyStack ∧
        ∀ stack, part.foldlM evalStep [] = .ok stack → ∀ v ∈ stack, InRange v := by
  obtain ⟨t, rfl⟩ := p.exists_tree
  refine ⟨t, rfl, fun u hu => Tree.postorder_injective hu, evaluate_toRpn t,
    foldlM_evalStep_postorder t [], ?_, ?_⟩
  · intro e
    rw [evaluate_toRpn, ← Application.answer_eq_error_iff _ t.exact, ← Tree.eval_eq_answer]
    cases t.eval <;> simp
  · intro part hpart
    obtain ⟨d, hd⟩ := t.toRpn.exists_intact hpart
    cases hrun : part.foldlM evalStep [] with
    | error f =>
      rw [hrun] at hd
      obtain ⟨e, rfl⟩ := hd
      simp
    | ok stack =>
      rw [hrun] at hd
      simp only [ne_eq, reduceCtorEq, not_false_eq_true, Except.ok.injEq, true_and]
      rintro _ rfl
      exact hd.2

end Rpn

end Calculator
