import Calculator.Rpn

/-!
# Traversals and evaluation of parse trees

The postorder of a tree determines the tree, also where other tokens stand before it. Both traversals hold the same
tokens, and the literals in the same order. Evaluation over unbounded integers is the sequence of operator applications
that it makes. Checked evaluation stops at the first application in this sequence that has no value or leaves the range;
if there is none, it agrees with the unbounded evaluation.
-/

namespace Calculator

/-- The word of a literal. -/
def Token.word? : Token → Option Word
  | .literal w => some w
  | .operator _ => none

@[simp] theorem Token.word?_literal (w : Word) : (Token.literal w).word? = some w := rfl
@[simp] theorem Token.word?_operator (op : Operator) : (Token.operator op).word? = none := rfl

namespace Tree

@[simp] theorem postorder_leaf (w : Word) : (leaf w).postorder = [.literal w] := rfl
@[simp] theorem postorder_node (l r : Tree) (op : Operator) :
    (node l op r).postorder = l.postorder ++ r.postorder ++ [.operator op] := rfl
@[simp] theorem inorder_leaf (w : Word) : (leaf w).inorder = [.literal w] := rfl
@[simp] theorem inorder_node (l r : Tree) (op : Operator) :
    (node l op r).inorder = l.inorder ++ .operator op :: r.inorder := rfl

/-- A postorder is cut off uniquely at the end of a token sequence: its last token tells a leaf from
a node, and the right subtree ends where the node's operator stands. -/
theorem append_postorder_inj {t u : Tree} {xs ys : List Token}
    (h : xs ++ t.postorder = ys ++ u.postorder) : xs = ys ∧ t = u := by
  induction t generalizing u xs ys with
  | leaf w =>
    cases u with
    | leaf w' =>
      obtain ⟨hxs, hw⟩ := List.append_inj' h rfl
      simp only [postorder_leaf, List.cons.injEq, Token.literal.injEq, and_true] at hw
      exact ⟨hxs, by rw [hw]⟩
    | node l op r =>
      simp only [postorder_node, ← List.append_assoc] at h
      have hlast := (List.append_inj' h rfl).2
      simp at hlast
  | node l op r ihl ihr =>
    cases u with
    | leaf w =>
      simp only [postorder_node, ← List.append_assoc] at h
      have hlast := (List.append_inj' h rfl).2
      simp at hlast
    | node l' op' r' =>
      simp only [postorder_node, ← List.append_assoc] at h
      obtain ⟨hinit, hlast⟩ := List.append_inj' h rfl
      obtain ⟨hleft, rfl⟩ := ihr hinit
      obtain ⟨hxs, rfl⟩ := ihl hleft
      simp only [List.cons.injEq, Token.operator.injEq, and_true] at hlast
      exact ⟨hxs, by rw [hlast]⟩

theorem postorder_injective {t u : Tree} (h : t.postorder = u.postorder) : t = u := by
  have happ : [] ++ t.postorder = [] ++ u.postorder := h
  exact (append_postorder_inj happ).2

theorem postorder_ne_nil (t : Tree) : t.postorder ≠ [] := by
  cases t <;> simp

/-- The two traversals differ only in the places of the operators. -/
theorem postorder_perm_inorder (t : Tree) : t.postorder.Perm t.inorder := by
  induction t with
  | leaf w => exact List.Perm.refl _
  | node l op r ihl ihr =>
    have hop : (r.postorder ++ [Token.operator op]).Perm (.operator op :: r.inorder) :=
      (List.perm_append_singleton _ _).trans (ihr.cons _)
    simpa only [postorder_node, inorder_node, List.append_assoc] using ihl.append hop

theorem words_postorder (t : Tree) :
    t.postorder.filterMap Token.word? = t.inorder.filterMap Token.word? := by
  induction t with
  | leaf w => rfl
  | node l op r ihl ihr => simp [List.filterMap_append, List.filterMap_cons, ihl, ihr]

end Tree

/-- An operator with the integers it is applied to. -/
structure Application where
  left : Int
  op : Operator
  right : Int
  deriving DecidableEq, Repr

namespace Application

/-- The result over unbounded integers. -/
def value (a : Application) : Int := a.op.exact a.left a.right

/-- No divisor is zero, and the result is a word. -/
def Sound (a : Application) : Prop := ¬(a.op.divides ∧ a.right = 0) ∧ InRange a.value

instance : DecidablePred Sound := fun a =>
  inferInstanceAs (Decidable (¬(a.op.divides ∧ a.right = 0) ∧ InRange a.value))

/-- The error that checked arithmetic reports. -/
def fault? (a : Application) : Option CalcError :=
  match a.op.apply a.left a.right with
  | .ok _ => none
  | .error e => some e

theorem apply_of_sound {a : Application} (h : a.Sound) :
    a.op.apply a.left a.right = .ok a.value := by
  obtain ⟨hdiv, hrange⟩ := h
  unfold value at hrange ⊢
  unfold Operator.apply
  rw [if_neg hdiv, if_pos hrange]

theorem apply_of_not_sound {a : Application} (h : ¬a.Sound) :
    ∃ e, a.op.apply a.left a.right = .error e := by
  unfold Operator.apply
  by_cases hdiv : a.op.divides ∧ a.right = 0
  · exact ⟨_, if_pos hdiv⟩
  · have hrange : ¬InRange (a.op.exact a.left a.right) := fun hr => h ⟨hdiv, hr⟩
    exact ⟨_, by rw [if_neg hdiv, if_neg hrange]⟩

theorem fault?_eq_none_iff (a : Application) : a.fault? = none ↔ a.Sound := by
  unfold fault?
  by_cases h : a.Sound
  · simp [apply_of_sound h, h]
  · obtain ⟨e, he⟩ := apply_of_not_sound h
    simp [he, h]

/-- What checked evaluation answers, given all applications and the unbounded value. -/
def answer (applications : List Application) (v : Int) : Except CalcError Int :=
  match applications.findSome? fault? with
  | some e => .error e
  | none => .ok v

theorem answer_singleton (a : Application) :
    answer [a] a.value = a.op.apply a.left a.right := by
  by_cases h : a.Sound
  · simp [answer, (fault?_eq_none_iff a).mpr h, apply_of_sound h]
  · obtain ⟨e, he⟩ := apply_of_not_sound h
    simp [answer, fault?, he]

/-- What goes on from the value of a first part is looked at only if that part is sound. -/
theorem answer_bind {before after : List Application} {u v : Int}
    {next : Int → Except CalcError Int} (h : next u = answer after v) :
    (answer before u >>= next) = answer (before ++ after) v := by
  unfold answer
  rw [List.findSome?_append]
  cases before.findSome? fault? with
  | none => exact h
  | some e => rfl

theorem answer_eq_ok_iff (applications : List Application) (u v : Int) :
    answer applications u = .ok v ↔ (∀ a ∈ applications, a.Sound) ∧ v = u := by
  unfold answer
  cases h : applications.findSome? fault? with
  | none =>
    have hall : ∀ a ∈ applications, a.Sound := fun a ha =>
      (fault?_eq_none_iff a).mp (List.findSome?_eq_none_iff.mp h a ha)
    simp only [Except.ok.injEq]
    exact ⟨fun huv => ⟨hall, huv.symm⟩, fun hv => hv.2.symm⟩
  | some e =>
    obtain ⟨a, ha, hfault⟩ := List.exists_of_findSome?_eq_some h
    simp only [reduceCtorEq, false_iff, not_and]
    intro hall
    rw [(fault?_eq_none_iff a).mpr (hall a ha)] at hfault
    simp at hfault

/-- An error comes from an application that follows sound ones only. -/
theorem answer_eq_error_iff (applications : List Application) (u : Int) (e : CalcError) :
    answer applications u = .error e ↔
      ∃ before a after, applications = before ++ a :: after ∧ (∀ b ∈ before, b.Sound) ∧
        a.op.apply a.left a.right = .error e := by
  have hfault : ∀ a : Application, a.fault? = some e ↔ a.op.apply a.left a.right = .error e := by
    intro a
    unfold fault?
    cases a.op.apply a.left a.right <;> simp
  have hanswer : answer applications u = .error e ↔ applications.findSome? fault? = some e := by
    unfold answer
    cases applications.findSome? fault? <;> simp
  simp only [hanswer, List.findSome?_eq_some_iff, hfault, fault?_eq_none_iff]
  constructor
  · rintro ⟨before, a, after, happ, he, hbefore⟩
    exact ⟨before, a, after, happ, hbefore, he⟩
  · rintro ⟨before, a, after, happ, hbefore, he⟩
    exact ⟨before, a, after, happ, he, hbefore⟩

end Application

namespace Tree

/-- The value over unbounded integers. -/
def exact : Tree → Int
  | .leaf w => w.value
  | .node l op r => op.exact l.exact r.exact

/-- The applications of the unbounded evaluation: left subtree, right subtree, node. -/
def applications : Tree → List Application
  | .leaf _ => []
  | .node l op r => l.applications ++ r.applications ++ [⟨l.exact, op, r.exact⟩]

theorem eval_eq_answer (t : Tree) : t.eval = Application.answer t.applications t.exact := by
  induction t with
  | leaf w => rfl
  | node l op r ihl ihr =>
    have hnode := Application.answer_singleton ⟨l.exact, op, r.exact⟩
    simp only [eval, applications, ihl, ihr, List.append_assoc]
    exact Application.answer_bind (Application.answer_bind hnode.symm)

/-- Every value that evaluation reaches is a word. -/
theorem inRange_of_eval {t : Tree} {v : Int} (h : t.eval = .ok v) : InRange v := by
  cases t with
  | leaf w =>
    cases h
    exact w.inRange
  | node l op r =>
    simp only [eval, bind_eq_ok_iff] at h
    obtain ⟨a, -, b, -, happly⟩ := h
    exact Operator.inRange_of_apply happly

/-- Evaluation fails at an operator that is applied to two words. -/
theorem exists_apply_of_eval {t : Tree} {c : CalcError} (h : t.eval = .error c) :
    ∃ (a b : Word) (op : Operator), op.apply a.value b.value = .error c := by
  induction t with
  | leaf w => simp [eval] at h
  | node l op r ihl ihr =>
    rw [eval] at h
    cases hl : l.eval with
    | error e =>
      rw [hl] at h
      cases h
      exact ihl hl
    | ok a =>
      rw [hl] at h
      cases hr : r.eval with
      | error e =>
        rw [hr] at h
        cases h
        exact ihr hr
      | ok b =>
        rw [hr] at h
        exact ⟨⟨a, inRange_of_eval hl⟩, ⟨b, inRange_of_eval hr⟩, op, h⟩

end Tree

end Calculator
