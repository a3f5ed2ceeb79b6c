import Calculator.Calculation
import Calculator.Proofs.StackMachine

/-!
# Conversion as reading by a grammar

A term is a chain of literals joined by multiplicative operators, a sum is a chain of terms joined by additive ones,
and both chains group to the left. Cutting an expression at its additive operators gives such a reading, and in the
tree of a reading no operator stands below one that binds tighter. Fed the inorder of a tree of this kind, the shunting
yard answers its postorder.
-/

namespace Calculator

/-- The token sequences of terms, each with its tree. -/
inductive IsTerm : List Token → Tree → Prop where
  | literal (w : Word) : IsTerm [.literal w] (.leaf w)
  | more {ts : List Token} {left : Tree} (op : Operator) (w : Word) (h : IsTerm ts left)
      (hop : op.isAdditive = false) :
      IsTerm (ts ++ [.operator op, .literal w]) (.node left op (.leaf w))

/-- The token sequences of sums, each with its tree. -/
inductive IsSum : List Token → Tree → Prop where
  | term {ts : List Token} {t : Tree} (h : IsTerm ts t) : IsSum ts t
  | more {ts us : List Token} {left right : Tree} (op : Operator) (h : IsSum ts left)
      (hop : op.isAdditive = true) (hright : IsTerm us right) :
      IsSum (ts ++ .operator op :: us) (.node left op right)

namespace Operator

theorem precedence_of_additive {op : Operator} (h : op.isAdditive = true) : op.precedence = 1 := by
  cases op <;> simp_all [isAdditive, precedence]

theorem precedence_of_not_additive {op : Operator} (h : op.isAdditive = false) : op.precedence = 2 := by
  cases op <;> simp_all [isAdditive, precedence]

theorem one_le_precedence (op : Operator) : 1 ≤ op.precedence := by
  cases op <;> decide

theorem precedence_le_two (op : Operator) : op.precedence ≤ 2 := by
  cases op <;> decide

end Operator

theorem IsTerm.inorder {ts : List Token} {t : Tree} (h : IsTerm ts t) : t.inorder = ts := by
  induction h with
  | literal w => rfl
  | more op w _ _ ih => simp [ih]

theorem IsSum.inorder {ts : List Token} {t : Tree} (h : IsSum ts t) : t.inorder = ts := by
  induction h with
  | term h => exact h.inorder
  | more op _ _ hright ih => simp [ih, hright.inorder]

theorem IsTerm.precedence_root {ts : List Token} {t : Tree} (h : IsTerm ts t) :
    ∀ o ∈ t.root?, o.precedence = 2 := by
  cases h with
  | literal w => simp [Tree.root?]
  | more op w _ hop => simpa [Tree.root?] using Operator.precedence_of_not_additive hop

theorem IsTerm.grouped {ts : List Token} {t : Tree} (h : IsTerm ts t) : t.Grouped := by
  induction h with
  | literal w => trivial
  | more op w hleft hop ih =>
    refine ⟨?_, by simp [Tree.root?], ih, trivial⟩
    intro o ho
    exact Nat.le_of_eq ((Operator.precedence_of_not_additive hop).trans (hleft.precedence_root o ho).symm)

theorem IsSum.grouped {ts : List Token} {t : Tree} (h : IsSum ts t) : t.Grouped := by
  induction h with
  | term h => exact h.grouped
  | more op _ hop hright ih =>
    refine ⟨?_, ?_, ih, hright.grouped⟩
    · intro o _
      rw [Operator.precedence_of_additive hop]
      exact o.one_le_precedence
    · intro o ho
      rw [Operator.precedence_of_additive hop, hright.precedence_root o ho]
      decide

namespace Term

def tokens (t : Term) : List Token := Infix.alternate t.first t.rest

/-- All operators of the term are multiplicative. -/
def Multiplicative (t : Term) : Prop := ∀ p ∈ t.rest, p.1.isAdditive = false

/-- A term that is continued to the right stays a term, as long as the operators are multiplicative. -/
theorem isTerm_foldl {ts : List Token} {left : Tree} (h : IsTerm ts left)
    (rest : List (Operator × Word)) (hrest : ∀ p ∈ rest, p.1.isAdditive = false) :
    IsTerm (ts ++ rest.flatMap fun (op, w) => [.operator op, .literal w])
      (rest.foldl (fun left (op, w) => .node left op (.leaf w)) left) := by
  induction rest generalizing ts left with
  | nil => simpa using h
  | cons p rest ih =>
    have hp := IsTerm.more p.1 p.2 h (hrest p (by simp))
    simpa using ih hp (fun q hq => hrest q (by simp [hq]))

theorem isTerm_tree (t : Term) (h : t.Multiplicative) : IsTerm t.tokens t.tree :=
  isTerm_foldl (.literal t.first) t.rest h

end Term

namespace Terms

def tokens (s : Terms) : List Token :=
  s.first.tokens ++ s.rest.flatMap fun (op, t) => .operator op :: t.tokens

/-- Additive operators stand between the terms, and only there. -/
structure WellCut (s : Terms) : Prop where
  first : s.first.Multiplicative
  joins : ∀ p ∈ s.rest, p.1.isAdditive = true
  terms : ∀ p ∈ s.rest, p.2.Multiplicative

theorem cut_additive {op : Operator} (h : op.isAdditive = true) (first w : Word)
    (rest : List (Operator × Word)) :
    cut first ((op, w) :: rest) = ⟨⟨first, []⟩, (op, (cut w rest).first) :: (cut w rest).rest⟩ := by
  simp [cut, h]

theorem cut_multiplicative {op : Operator} (h : op.isAdditive = false) (first w : Word)
    (rest : List (Operator × Word)) :
    cut first ((op, w) :: rest) =
      ⟨⟨first, (op, (cut w rest).first.first) :: (cut w rest).first.rest⟩, (cut w rest).rest⟩ := by
  simp [cut, h]

theorem tokens_cut (first : Word) (rest : List (Operator × Word)) :
    (cut first rest).tokens = Infix.alternate first rest := by
  induction rest generalizing first with
  | nil => rfl
  | cons p rest ih =>
    obtain ⟨op, w⟩ := p
    have hrest := ih w
    cases hop : op.isAdditive with
    | true =>
      rw [cut_additive hop]
      simpa [tokens, Term.tokens, Infix.alternate] using hrest
    | false =>
      rw [cut_multiplicative hop]
      simpa [tokens, Term.tokens, Infix.alternate] using hrest

theorem wellCut_cut (first : Word) (rest : List (Operator × Word)) : (cut first rest).WellCut := by
  induction rest generalizing first with
  | nil => exact ⟨by simp [cut, Term.Multiplicative], by simp [cut], by simp [cut]⟩
  | cons p rest ih =>
    obtain ⟨op, w⟩ := p
    obtain ⟨hfirst, hjoins, hterms⟩ := ih w
    cases hop : op.isAdditive with
    | true =>
      rw [cut_additive hop]
      refine ⟨by simp [Term.Multiplicative], ?_, ?_⟩
      · exact List.forall_mem_cons.mpr ⟨hop, hjoins⟩
      · exact List.forall_mem_cons.mpr ⟨hfirst, hterms⟩
    | false =>
      rw [cut_multiplicative hop]
      exact ⟨List.forall_mem_cons.mpr ⟨hop, hfirst⟩, hjoins, hterms⟩

/-- A sum that is continued to the right by terms stays a sum. -/
theorem isSum_foldl {ts : List Token} {left : Tree} (h : IsSum ts left) (rest : List (Operator × Term))
    (hjoins : ∀ p ∈ rest, p.1.isAdditive = true) (hterms : ∀ p ∈ rest, p.2.Multiplicative) :
    IsSum (ts ++ rest.flatMap fun (op, t) => .operator op :: t.tokens)
      (rest.foldl (fun left (op, t) => .node left op t.tree) left) := by
  induction rest generalizing ts left with
  | nil => simpa using h
  | cons p rest ih =>
    have hp := IsSum.more p.1 h (hjoins p (by simp)) (p.2.isTerm_tree (hterms p (by simp)))
    simpa using ih hp (fun q hq => hjoins q (by simp [hq])) (fun q hq => hterms q (by simp [hq]))

theorem isSum_tree (s : Terms) (h : s.WellCut) : IsSum s.tokens s.tree :=
  isSum_foldl (.term (s.first.isTerm_tree h.first)) s.rest h.joins h.terms

end Terms

namespace Infix

theorem tokens_terms (e : Infix) : e.terms.tokens = e.tokens := Terms.tokens_cut e.first e.rest

theorem wellCut_terms (e : Infix) : e.terms.WellCut := Terms.wellCut_cut e.first e.rest

theorem isSum_tree (e : Infix) : IsSum e.tokens e.tree := by
  rw [← e.tokens_terms]
  exact e.terms.isSum_tree e.wellCut_terms

end Infix

namespace Yard

@[simp] theorem feed_literal (y : Yard) (w : Word) :
    y.feed (.literal w) = ⟨.literal w :: y.emitted, y.stack⟩ := rfl

/-- An operator releases what binds at least as tightly, down to the first operator that does not. -/
theorem feed_operator (emitted : List Token) {above below : List Operator} {op : Operator}
    (habove : ∀ o ∈ above, op.precedence ≤ o.precedence)
    (hbelow : ∀ o ∈ below, o.precedence < op.precedence) :
    feed ⟨emitted, above ++ below⟩ (.operator op) =
      ⟨(above.map .operator).reverse ++ emitted, op :: below⟩ := by
  have htight : ∀ o ∈ above, decide (op.precedence ≤ o.precedence) = true := by
    intro o ho
    exact decide_eq_true (habove o ho)
  have hkept : below.takeWhile (op.precedence ≤ ·.precedence) = [] ∧
      below.dropWhile (op.precedence ≤ ·.precedence) = below := by
    cases below with
    | nil => exact ⟨rfl, rfl⟩
    | cons o below =>
      have ho : ¬op.precedence ≤ o.precedence := Nat.not_le.mpr (hbelow o (by simp))
      simp [ho]
  simp only [feed, List.takeWhile_append_of_pos htight, List.dropWhile_append_of_pos htight, hkept,
    List.append_nil]

/-- The yard after a grouped tree, above waiting operators that bind looser than some bound which the root
keeps to. What has left the yard since and what waits there now make up the postorder, and what waits
keeps to the bound too, so that the operator around the tree will release it. -/
theorem foldl_feed_inorder (t : Tree) (h : t.Grouped) (bound : Nat)
    (hroot : ∀ o ∈ t.root?, bound ≤ o.precedence) (y : Yard)
    (hy : ∀ o ∈ y.stack, o.precedence < bound) :
    ∃ out above, t.inorder.foldl feed y = ⟨out.reverse ++ y.emitted, above ++ y.stack⟩ ∧
      out ++ above.map .operator = t.postorder ∧ ∀ o ∈ above, bound ≤ o.precedence := by
  induction t generalizing bound y with
  | leaf w => exact ⟨[.literal w], [], rfl, rfl, by simp⟩
  | node l op r ihl ihr =>
    obtain ⟨hl, hr, hgl, hgr⟩ := h
    have hop : bound ≤ op.precedence := hroot op rfl
    obtain ⟨outl, abovel, hfeedl, hpostl, htightl⟩ :=
      ihl hgl op.precedence hl y (fun o ho => Nat.lt_of_lt_of_le (hy o ho) hop)
    have hlow : ∀ o ∈ y.stack, o.precedence < op.precedence := fun o ho =>
      Nat.lt_of_lt_of_le (hy o ho) hop
    have hwait : ∀ o ∈ op :: y.stack, o.precedence < op.precedence + 1 := by
      intro o ho
      rcases List.mem_cons.mp ho with rfl | ho
      · exact Nat.lt_succ_self _
      · exact Nat.lt_succ_of_lt (hlow o ho)
    obtain ⟨outr, abover, hfeedr, hpostr, htightr⟩ :=
      ihr hgr (op.precedence + 1) hr ⟨l.postorder.reverse ++ y.emitted, op :: y.stack⟩ hwait
    refine ⟨l.postorder ++ outr, abover ++ [op], ?_, ?_, ?_⟩
    · have hemitted : (abovel.map Token.operator).reverse ++ (outl.reverse ++ y.emitted) =
          l.postorder.reverse ++ y.emitted := by
        rw [← hpostl, List.reverse_append, List.append_assoc]
      rw [Tree.inorder_node, List.foldl_append, hfeedl, List.foldl_cons,
        feed_operator _ htightl hlow, hemitted, hfeedr]
      simp
    · simp [← hpostr]
    · intro o ho
      rcases List.mem_append.mp ho with ho | ho
      · have := htightr o ho
        omega
      · rw [List.mem_singleton.mp ho]
        exact hop

theorem convert_inorder {t : Tree} (h : t.Grouped) : convert t.inorder = t.postorder := by
  obtain ⟨out, above, hfeed, hpost, -⟩ :=
    foldl_feed_inorder t h 0 (fun _ _ => Nat.zero_le _) empty (by simp [empty])
  rw [convert, hfeed, ← hpost]
  simp [finish, empty]

end Yard

/-- The inorder of a grouped tree determines the tree. -/
theorem Tree.eq_of_inorder_eq {t u : Tree} (ht : t.Grouped) (hu : u.Grouped)
    (h : t.inorder = u.inorder) : t = u := by
  apply Tree.postorder_injective
  rw [← Yard.convert_inorder ht, ← Yard.convert_inorder hu, h]

/-- A sum is read in one way only. -/
theorem IsSum.tree_eq {ts : List Token} {t u : Tree} (ht : IsSum ts t) (hu : IsSum ts u) : t = u :=
  Tree.eq_of_inorder_eq ht.grouped hu.grouped (ht.inorder.trans hu.inorder.symm)

theorem Rpn.build_postorder (t : Tree) : Rpn.build t.postorder = .ok t.toRpn := by
  have h := (Rpn.ofTokens_eq_ok_iff t.postorder t.toRpn).mpr rfl
  simp [Rpn.build, h]

theorem Infix.convert_tokens (e : Infix) : Yard.convert e.tokens = e.tree.postorder := by
  rw [← e.isSum_tree.inorder]
  exact Yard.convert_inorder e.isSum_tree.grouped

/-- Conversion always succeeds, with the sequence of the tree that the grammar gives. -/
theorem Infix.toRpn_eq_toRpn_tree (e : Infix) : e.toRpn = .ok e.tree.toRpn := by
  rw [Infix.toRpn, e.convert_tokens, Rpn.build_postorder, Failure.ofChecked_ok]

/-- A valid expression converts to the postorder of the one tree by which the grammar reads it. The
literals keep their order, and no token is lost, added or doubled. -/
theorem convert_reads_grammar (tokens : List String) (e : Infix)
    (h : Infix.validate tokens = .ok e) :
    ∃ (p : Rpn) (t : Tree), (Failure.ofError (Infix.validate tokens) >>= Infix.toRpn) = .ok p ∧
      IsSum e.tokens t ∧ (∀ u, IsSum e.tokens u → u = t) ∧ p.tokens = t.postorder ∧
      p.tokens.filterMap Token.word? = e.tokens.filterMap Token.word? ∧ p.tokens.Perm e.tokens := by
  have hsum := e.isSum_tree
  refine ⟨e.tree.toRpn, e.tree, ?_, hsum, fun u hu => hu.tree_eq hsum, rfl, ?_, ?_⟩
  · rw [h, Failure.ofError_ok, ok_bind, e.toRpn_eq_toRpn_tree]
  · rw [← hsum.inorder]
    exact e.tree.words_postorder
  · rw [← hsum.inorder]
    exact e.tree.postorder_perm_inorder

theorem convert_difference_of_quotient :
    ∃ (e : Infix) (p : Rpn), Infix.validate ["10", "-", "7", "/", "-2", "-", "+3"] = .ok e ∧
      (Failure.ofError (Infix.validate ["10", "-", "7", "/", "-2", "-", "+3"]) >>= Infix.toRpn) = .ok p ∧
      p.text = "10 7 -2 / - 3 -" := by
  have h : Infix.validate ["10", "-", "7", "/", "-2", "-", "+3"] =
      .ok ⟨_, ⟨10, by decide⟩,
        [(.sub, ⟨7, by decide⟩), (.div, ⟨-2, by decide⟩), (.sub, ⟨3, by decide⟩)]⟩ :=
    rfl
  obtain ⟨p, t, hp, -, honly, hpost, -⟩ := convert_reads_grammar _ _ h
  refine ⟨_, p, h, hp, ?_⟩
  rw [Rpn.text, hpost, ← honly _ (Infix.isSum_tree _)]
  rfl

end Calculator
