import Calculator.Proofs.Conversion
import Calculator.Proofs.Places
import Calculator.Proofs.PostfixGrammar

/-!
# What waits in the yard

The waiting operators bind tighter and tighter toward the top, and there are only two strengths, so never more than
two of them wait. Each waits above one value of the output, which bounds the values that are left at any place of the
converted sequence, and with them the stack of the machine that evaluates it.
-/

namespace Calculator

/-- With two strengths there is no room for a third operator. -/
theorem Operator.length_le_two_of_tightening {ops : List Operator}
    (h : ops.Pairwise fun upper lower => lower.precedence < upper.precedence) : ops.length ≤ 2 := by
  match ops with
  | [] | [_] | [_, _] => simp
  | first :: second :: third :: _ =>
    obtain ⟨hfirst, hrest⟩ := List.pairwise_cons.mp h
    obtain ⟨hsecond, -⟩ := List.pairwise_cons.mp hrest
    have hupper := hfirst second (by simp)
    have hlower := hsecond third (by simp)
    have hmost := first.precedence_le_two
    have hleast := third.one_le_precedence
    omega

/-- Literals stand at even places. -/
theorem Infix.isLiteral_iff_even (e : Infix) {n : Nat} {token : Token} (h : e.tokens[n]? = some token) :
    token.isLiteral = true ↔ n % 2 = 0 := by
  obtain ⟨i, rfl | rfl⟩ : ∃ i, n = 2 * i ∨ n = 2 * i + 1 := ⟨n / 2, by omega⟩
  · rw [e.getElem?_tokens_even] at h
    obtain ⟨w, -, rfl⟩ := Option.map_eq_some_iff.mp h
    simp [Token.isLiteral]
  · rw [e.getElem?_tokens_odd] at h
    obtain ⟨op, -, rfl⟩ := Option.map_eq_some_iff.mp h
    simp [Token.isLiteral]

namespace Yard

/-- The yard after some tokens. -/
def after (part : List Token) : Yard := part.foldl feed empty

@[simp] theorem after_concat (part : List Token) (token : Token) :
    after (part ++ [token]) = (after part).feed token := by
  simp [after]

/-- The waiting operators bind tighter toward the top. The output leaves a value for each of them and `spare` ones,
and more than three at no place. -/
structure Balanced (y : Yard) (spare : Nat) : Prop where
  tightening : y.stack.Pairwise fun upper lower => lower.precedence < upper.precedence
  depth : y.emitted.reverse.foldlM depthStep 0 = .ok (y.stack.length + spare)
  shallow : ∀ part d, part <+: y.emitted.reverse → part.foldlM depthStep 0 = .ok d → d ≤ 3

variable {y : Yard} {spare : Nat} {emitted : List Token} {above below : List Operator} {op : Operator}

theorem Balanced.length_stack_le (h : y.Balanced spare) : y.stack.length ≤ 2 :=
  Operator.length_le_two_of_tightening h.tightening

theorem balanced_empty : empty.Balanced 0 := by
  refine ⟨.nil, rfl, fun part d hpart hd => ?_⟩
  obtain rfl := List.prefix_nil.mp hpart
  cases hd
  exact Nat.zero_le 3

/-- One more token leaves the yard, and the output leaves what it makes of the values before it. -/
theorem Balanced.emit (h : y.Balanced spare) {token : Token} {stack : List Operator} {spare' : Nat}
    (htight : stack.Pairwise fun upper lower => lower.precedence < upper.precedence)
    (hstep : depthStep (y.stack.length + spare) token = .ok (stack.length + spare'))
    (hfew : stack.length + spare' ≤ 3) : Balanced ⟨token :: y.emitted, stack⟩ spare' := by
  have hdepth : (y.emitted.reverse ++ [token]).foldlM depthStep 0 = .ok (stack.length + spare') := by
    rw [List.foldlM_append, h.depth, ok_bind, List.foldlM_cons, hstep]
    rfl
  refine ⟨htight, by rwa [List.reverse_cons], fun part d hpart hd => ?_⟩
  rw [List.reverse_cons] at hpart
  rcases List.prefix_concat_iff.mp hpart with rfl | hpart
  · rw [hdepth] at hd
    cases hd
    exact hfew
  · exact h.shallow part d hpart hd

theorem Balanced.literal (h : y.Balanced 0) (w : Word) : (y.feed (.literal w)).Balanced 1 :=
  h.emit h.tightening rfl (Nat.succ_le_succ h.length_stack_le)

/-- The top operator leaves the yard and takes one value of two. -/
theorem Balanced.release (h : Balanced ⟨emitted, op :: below⟩ 1) : Balanced ⟨.operator op :: emitted, below⟩ 1 := by
  have hstep : depthStep ((op :: below).length + 1) (.operator op) = .ok (below.length + 1) :=
    (depthStep_operator_eq_ok_iff _ _ op).mpr ⟨below.length, rfl, rfl⟩
  have hfew : below.length + 1 ≤ 2 := h.length_stack_le
  exact h.emit h.tightening.of_cons hstep (Nat.le_succ_of_le hfew)

theorem Balanced.releases (h : Balanced ⟨emitted, above ++ below⟩ 1) :
    Balanced ⟨(above.map .operator).reverse ++ emitted, below⟩ 1 := by
  induction above generalizing emitted with
  | nil => exact h
  | cons op above ih => simpa using ih h.release

/-- An operator that binds tighter than all that wait joins them, and the spare value with it. -/
theorem Balanced.push (h : Balanced ⟨emitted, below⟩ 1) (hop : ∀ o ∈ below, o.precedence < op.precedence) :
    Balanced ⟨emitted, op :: below⟩ 0 :=
  ⟨List.pairwise_cons.mpr ⟨hop, h.tightening⟩, h.depth, h.shallow⟩

/-- What binds at least as tightly as the new operator stands above all that does not. -/
theorem precedence_lt_of_mem_dropWhile {ops : List Operator}
    (h : ops.Pairwise fun upper lower => lower.precedence < upper.precedence) (op : Operator) :
    ∀ o ∈ ops.dropWhile (op.precedence ≤ ·.precedence), o.precedence < op.precedence := by
  have hkept := h.sublist (List.dropWhile_sublist (op.precedence ≤ ·.precedence))
  have htop := List.head?_dropWhile_not (op.precedence ≤ ·.precedence) ops
  cases hops : ops.dropWhile (op.precedence ≤ ·.precedence) with
  | nil => simp
  | cons top rest =>
    rw [hops] at hkept htop
    have hlow : top.precedence < op.precedence := by simpa using htop
    intro o ho
    rcases List.mem_cons.mp ho with rfl | ho
    · exact hlow
    · exact Nat.lt_trans (List.rel_of_pairwise_cons hkept ho) hlow

theorem Balanced.operator (h : y.Balanced 1) (op : Operator) : (y.feed (.operator op)).Balanced 0 := by
  have hsplit : Balanced ⟨y.emitted, y.stack.takeWhile (op.precedence ≤ ·.precedence) ++
      y.stack.dropWhile (op.precedence ≤ ·.precedence)⟩ 1 := by
    rw [List.takeWhile_append_dropWhile]
    exact h
  exact hsplit.releases.push (precedence_lt_of_mem_dropWhile h.tightening op)

theorem balanced_take (e : Infix) (n : Nat) (hn : n ≤ e.tokens.length) :
    (after (e.tokens.take n)).Balanced (n % 2) := by
  induction n with
  | zero => exact balanced_empty
  | succ n ih =>
    have hbefore := ih (Nat.le_of_succ_le hn)
    have hplace := e.isLiteral_iff_even (List.getElem?_eq_getElem hn)
    rw [List.take_succ_eq_append_getElem hn, after_concat]
    -- Tokens alternate, so the place tells both what came before and what comes now.
    cases htoken : e.tokens[n] with
    | literal w =>
      have heven : n % 2 = 0 := hplace.mp (by rw [htoken]; rfl)
      have hodd : (n + 1) % 2 = 1 := by omega
      rw [hodd]
      exact (heven ▸ hbefore).literal w
    | operator op =>
      have hodd : n % 2 = 1 := by
        have hnot : ¬n % 2 = 0 := fun heven => by simpa [htoken, Token.isLiteral] using hplace.mpr heven
        omega
      have heven : (n + 1) % 2 = 0 := by omega
      rw [heven]
      exact (hodd ▸ hbefore).operator op

/-- One right after a literal, else none. -/
def spareAfter (part : List Token) : Nat := if part.getLast?.any Token.isLiteral then 1 else 0

theorem spareAfter_eq (e : Infix) {part : List Token} (h : part <+: e.tokens) : spareAfter part = part.length % 2 := by
  rcases List.eq_nil_or_concat part with rfl | ⟨before, last, rfl⟩
  · rfl
  obtain ⟨rest, hrest⟩ := h
  have hlast : e.tokens[before.length]? = some last := by simp [← hrest]
  have hplace := e.isLiteral_iff_even hlast
  rw [List.concat_eq_append, spareAfter, List.getLast?_concat, Option.any_some, List.length_append,
    List.length_singleton]
  split
  · next hliteral =>
    have heven := hplace.mp hliteral
    omega
  · next hoperator =>
    have hodd := mt hplace.mpr hoperator
    omega

theorem balanced_after (e : Infix) {part : List Token} (h : part <+: e.tokens) :
    (after part).Balanced (spareAfter part) := by
  have htake := balanced_take e part.length h.length_le
  rwa [← List.prefix_iff_eq_take.mp h, ← spareAfter_eq e h] at htake

/-- While an operator makes others leave the yard, the value before it stays the spare one. -/
theorem balanced_releasing (e : Infix) {part : List Token} (h : part ++ [.operator op] <+: e.tokens)
    (hstack : (after part).stack = above ++ below) :
    Balanced ⟨(above.map .operator).reverse ++ (after part).emitted, below⟩ 1 := by
  have hpart : part <+: e.tokens := (List.prefix_append part _).trans h
  have hspare : spareAfter part = 1 := by
    obtain ⟨rest, hrest⟩ := h
    have htoken : e.tokens[part.length]? = some (.operator op) := by simp [← hrest]
    have hodd := mt (e.isLiteral_iff_even htoken).mpr (by simp [Token.isLiteral])
    rw [spareAfter_eq e hpart]
    omega
  have hbalanced := balanced_after e hpart
  rw [hspare] at hbalanced
  refine Balanced.releases ?_
  rw [← hstack]
  exact hbalanced

/-- All that still waits leaves the yard in the end. -/
theorem Balanced.finish (h : y.Balanced 1) : Balanced ⟨y.finish.reverse, []⟩ 1 := by
  have hall : Balanced ⟨y.emitted, y.stack ++ []⟩ 1 := by
    rw [List.append_nil]
    exact h
  simpa [Yard.finish] using hall.releases

theorem depth_convert_le (e : Infix) {part : List Token} (hpart : part <+: convert e.tokens) {d : Nat}
    (hd : part.foldlM depthStep 0 = .ok d) : d ≤ 3 := by
  have hall := balanced_take e e.tokens.length (Nat.le_refl _)
  have hodd : e.tokens.length % 2 = 1 := by
    rw [e.length_tokens]
    omega
  rw [hodd, List.take_length] at hall
  refine hall.finish.shallow part d ?_ hd
  rw [List.reverse_reverse]
  exact hpart

end Yard

/-- The machine holds the values that the check counts. -/
theorem Infix.length_evalStep_le (e : Infix) {part : List Token} (hpart : part <+: e.tree.toRpn.tokens)
    {stack : List Int} (hrun : part.foldlM Rpn.evalStep [] = .ok stack) : stack.length ≤ 3 := by
  obtain ⟨d, hd⟩ := e.tree.toRpn.exists_depth hpart
  have hintact : Rpn.Intact d (part.foldlM Rpn.evalStep []) := Rpn.intact_run (by simp) hd
  rw [hrun] at hintact
  obtain ⟨rfl, -⟩ := hintact
  refine Yard.depth_convert_le e ?_ hd
  rw [e.convert_tokens]
  exact hpart

/-- At every token of a valid expression, and while one makes operators leave the yard, the waiting operators bind
tighter and tighter toward the top, two of them at most, and the output leaves as many values as operators wait, and
one more right after a literal. The machine that evaluates the converted sequence therefore never holds more than
three values, however long the expression is. -/
theorem conversion_bounds_stacks (tokens : List String) (e : Infix) (h : Infix.validate tokens = .ok e) :
    (∀ part, part <+: e.tokens →
      (Yard.after part).Balanced (Yard.spareAfter part) ∧ (Yard.after part).stack.length ≤ 2) ∧
      (∀ part op above below, part ++ [.operator op] <+: e.tokens → (Yard.after part).stack = above ++ below →
        Yard.Balanced ⟨(above.map .operator).reverse ++ (Yard.after part).emitted, below⟩ 1) ∧
      ∃ p : Rpn, (Failure.ofError (Infix.validate tokens) >>= Infix.toRpn) = .ok p ∧
        p.tokens = (Yard.after e.tokens).finish ∧
        ∀ part, part <+: p.tokens → ∀ stack, part.foldlM Rpn.evalStep [] = .ok stack → stack.length ≤ 3 := by
  refine ⟨?_, fun part op above below => Yard.balanced_releasing e, e.tree.toRpn, ?_, ?_, ?_⟩
  · intro part hpart
    have hbalanced := Yard.balanced_after e hpart
    exact ⟨hbalanced, hbalanced.length_stack_le⟩
  · rw [h, Failure.ofError_ok, ok_bind, e.toRpn_eq_toRpn_tree]
  · exact e.convert_tokens.symm
  · exact fun part hpart stack => e.length_evalStep_le hpart

/-- Both bounds are reached. -/
theorem conversion_reaches_bounds :
    ∃ (e : Infix) (p : Rpn), Infix.validate ["9", "-", "8", "/", "-2"] = .ok e ∧
      (Failure.ofError (Infix.validate ["9", "-", "8", "/", "-2"]) >>= Infix.toRpn) = .ok p ∧
      (Yard.after (e.tokens.take 4)).stack = [.div, .sub] ∧
      (p.tokens.take 3).foldlM Rpn.evalStep [] = .ok [-2, 8, 9] ∧
      ∀ part, part <+: p.tokens → ∀ stack, part.foldlM Rpn.evalStep [] = .ok stack → stack.length ≤ 3 := by
  have h : Infix.validate ["9", "-", "8", "/", "-2"] =
      .ok ⟨_, ⟨9, by decide⟩, [(.sub, ⟨8, by decide⟩), (.div, ⟨-2, by decide⟩)]⟩ :=
    rfl
  obtain ⟨-, -, p, hp, htokens, hbound⟩ := conversion_bounds_stacks _ _ h
  refine ⟨_, p, h, hp, rfl, ?_, hbound⟩
  rw [htokens]
  rfl

end Calculator
