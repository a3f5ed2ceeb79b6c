import Calculator.Proofs.Acceptance
import Calculator.Proofs.Conversion

/-!
# Conversion as an encoding

The tree of a converted sequence reads back, in inorder, as the expression that it was converted from. A postfix
sequence comes from some expression exactly if its tree is grouped as precedence and order from the left demand, and
the inorder of the tree in print is then such an expression.
-/

namespace Calculator

namespace Tree

/-- The inorder of a tree as an expression, with its tokens in print. -/
def expression : Tree → Infix
  | .leaf w => ⟨[w.text], w, []⟩
  | .node l op r => l.expression.join op r.expression

@[simp] theorem expression_leaf (w : Word) : (leaf w).expression = ⟨[w.text], w, []⟩ := rfl
@[simp] theorem expression_node (l r : Tree) (op : Operator) :
    (node l op r).expression = l.expression.join op r.expression := rfl

theorem tokens_expression (t : Tree) : t.expression.tokens = t.inorder := by
  induction t with
  | leaf w => rfl
  | node l op r ihl ihr => rw [expression_node, Infix.tokens_join, ihl, ihr, inorder_node]

theorem source_expression (t : Tree) : t.expression.source = t.inorder.map Token.text := by
  induction t with
  | leaf w => rfl
  | node l op r ihl ihr =>
    rw [expression_node, inorder_node, List.map_append, List.map_cons, ← ihl, ← ihr]
    rfl

/-- Whatever the shape of a tree is, its inorder in print is valid. -/
theorem validate_inorder (t : Tree) :
    Infix.validate (t.inorder.map Token.text) = .ok t.expression := by
  rw [← source_expression]
  induction t with
  | leaf w => exact Infix.validate_word w
  | node l op r ihl ihr => exact Infix.validate_join ihl ihr op

theorem toRpn_inj {t u : Tree} : t.toRpn = u.toRpn ↔ t = u := by
  constructor
  · intro h
    exact postorder_injective (congrArg Rpn.tokens h)
  · rintro rfl
    rfl

/-- A grouped tree is the one by which its own inorder is read. -/
theorem Grouped.tree_expression {t : Tree} (h : t.Grouped) : t.expression.tree = t := by
  have hsum := t.expression.isSum_tree
  refine eq_of_inorder_eq hsum.grouped h ?_
  rw [hsum.inorder, t.tokens_expression]

end Tree

namespace Infix

theorem inorder_tree (e : Infix) : e.tree.inorder = e.tokens := e.isSum_tree.inorder

/-- An expression converts to the sequence of its own tree and to no other. -/
theorem toRpn_eq_ok_iff (e : Infix) (t : Tree) : e.toRpn = .ok t.toRpn ↔ e.tree = t := by
  rw [e.toRpn_eq_toRpn_tree, Except.ok.injEq, Tree.toRpn_inj]

/-- Where the postfix is the same, the trees are, and with them the tokens. -/
theorem tokens_eq_of_toRpn_eq {e e' : Infix} (h : e.toRpn = e'.toRpn) : e.tokens = e'.tokens := by
  rw [e'.toRpn_eq_toRpn_tree, e.toRpn_eq_ok_iff] at h
  rw [← e.inorder_tree, h, e'.inorder_tree]

end Infix

namespace Tree

theorem Grouped.toRpn_expression {t : Tree} (h : t.Grouped) : t.expression.toRpn = .ok t.toRpn :=
  (t.expression.toRpn_eq_ok_iff t).mpr h.tree_expression

/-- Conversion yields the sequences of grouped trees and no others. -/
theorem exists_toRpn_iff (t : Tree) :
    (∃ tokens e, Infix.validate tokens = .ok e ∧ e.toRpn = .ok t.toRpn) ↔ t.Grouped := by
  constructor
  · rintro ⟨tokens, e, -, htoRpn⟩
    rw [← (e.toRpn_eq_ok_iff t).mp htoRpn]
    exact e.isSum_tree.grouped
  · intro h
    exact ⟨_, t.expression, t.validate_inorder, h.toRpn_expression⟩

end Tree

/-- Reading the tree of a postfix sequence in inorder undoes conversion, so expressions with the same postfix
have the same tokens. The sequences that conversion yields are those of grouped trees, and each of these is
converted from the inorder of its tree in print. -/
theorem conversion_inverts :
    (∀ tokens e, Infix.validate tokens = .ok e → ∃ p, e.toRpn = .ok p ∧
        ∀ t : Tree, t.postorder = p.tokens → t.inorder = e.tokens) ∧
      (∀ tokens tokens' e e', Infix.validate tokens = .ok e → Infix.validate tokens' = .ok e' →
        e.toRpn = e'.toRpn → e.tokens = e'.tokens) ∧
      ∀ p : Rpn, ∃ t : Tree, t.postorder = p.tokens ∧ (∀ u : Tree, u.postorder = p.tokens → u = t) ∧
        ((∃ tokens e, Infix.validate tokens = .ok e ∧ e.toRpn = .ok p) ↔ t.Grouped) ∧
        (t.Grouped → ∃ e, Infix.validate (t.inorder.map Token.text) = .ok e ∧ e.toRpn = .ok p) := by
  refine ⟨?_, fun _ _ e e' _ _ h => Infix.tokens_eq_of_toRpn_eq h, ?_⟩
  · intro tokens e _
    refine ⟨e.tree.toRpn, e.toRpn_eq_toRpn_tree, fun t ht => ?_⟩
    rw [Tree.postorder_injective ht, e.inorder_tree]
  · intro p
    obtain ⟨t, rfl⟩ := p.exists_tree
    refine ⟨t, rfl, fun u hu => Tree.postorder_injective hu, t.exists_toRpn_iff, fun h => ?_⟩
    exact ⟨t.expression, t.validate_inorder, h.toRpn_expression⟩

end Calculator
