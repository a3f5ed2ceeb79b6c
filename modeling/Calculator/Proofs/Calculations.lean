import Calculator.Proofs.Conversion

/-!
# Calculations as folds over terms

The value of a valid expression is a fold of folds: over the operators of each term, and over the operators between
the terms. The calculation answers the unbounded value of these folds if every application in them is sound, and
otherwise the error of the first one that is not. A run always ends in an outcome, since the stages hand over only what
the next one accepts, and the outcome says exactly what became of the calculation.
-/

namespace Calculator

namespace Application

/-- The applications of a chain that continues from a value. Those of each part stand directly before the
one that joins it to what is on its left. -/
def chain (parts : α → List Application) (value : α → Int) (a : Int) :
    List (Operator × α) → List Application
  | [] => []
  | (op, x) :: rest => parts x ++ ⟨a, op, value x⟩ :: chain parts value (op.exact a (value x)) rest

theorem foldlM_eq_answer {eval : α → Except CalcError Int} {parts : α → List Application}
    {value : α → Int} (h : ∀ x, eval x = answer (parts x) (value x)) (rest : List (Operator × α))
    (a : Int) :
    rest.foldlM (fun a (op, x) => eval x >>= op.apply a) a =
      answer (chain parts value a rest) (rest.foldl (fun a (op, x) => op.exact a (value x)) a) := by
  induction rest generalizing a with
  | nil => rfl
  | cons p rest ih =>
    obtain ⟨op, x⟩ := p
    have hone : answer [⟨a, op, value x⟩] (op.exact a (value x)) = op.apply a (value x) :=
      answer_singleton _
    rw [List.foldlM_cons, List.foldl_cons]
    dsimp only
    rw [h x, bind_assoc]
    refine answer_bind ?_
    rw [← hone]
    exact answer_bind (ih _)

end Application

theorem Tree.eval_foldl_node (tree : α → Tree) (rest : List (Operator × α)) (left : Tree) :
    (rest.foldl (fun left (op, x) => node left op (tree x)) left).eval =
      left.eval >>= fun a => rest.foldlM (fun a (op, x) => (tree x).eval >>= op.apply a) a := by
  induction rest generalizing left with
  | nil => cases h : left.eval <;> simp [h]
  | cons p rest ih =>
    rw [List.foldl_cons, ih]
    cases h : left.eval <;> simp [eval, h]

namespace Term

/-- The value over unbounded integers. -/
def exact (t : Term) : Int :=
  t.rest.foldl (fun a (op, w) => op.exact a w.value) t.first.value

/-- Literals bring no applications of their own. -/
def applications (t : Term) : List Application :=
  Application.chain (fun _ => []) Word.value t.first.value t.rest

theorem eval_eq_answer (t : Term) : t.eval = Application.answer t.applications t.exact := by
  have hword : ∀ w : Word, (Except.ok w.value : Except CalcError Int) = Application.answer [] w.value :=
    fun _ => rfl
  exact Application.foldlM_eq_answer hword t.rest t.first.value

theorem eval_tree (t : Term) : t.tree.eval = t.eval :=
  Tree.eval_foldl_node Tree.leaf t.rest (.leaf t.first)

end Term

namespace Terms

/-- The value over unbounded integers. -/
def exact (s : Terms) : Int :=
  s.rest.foldl (fun a (op, t) => op.exact a t.exact) s.first.exact

/-- Each term is evaluated just before it is combined. -/
def applications (s : Terms) : List Application :=
  s.first.applications ++ Application.chain Term.applications Term.exact s.first.exact s.rest

theorem eval_eq_answer (s : Terms) : s.eval = Application.answer s.applications s.exact := by
  rw [eval, s.first.eval_eq_answer]
  exact Application.answer_bind (Application.foldlM_eq_answer Term.eval_eq_answer s.rest s.first.exact)

theorem eval_tree (s : Terms) : s.tree.eval = s.eval := by
  have hsum := Tree.eval_foldl_node Term.tree s.rest s.first.tree
  simp only [Term.eval_tree] at hsum
  exact hsum

end Terms

theorem calculate_of_validate {tokens : List String} {e : Infix} (h : Infix.validate tokens = .ok e) :
    calculate tokens = Failure.ofError e.terms.eval := by
  rw [← Terms.eval_tree]
  simp only [calculate, h, Failure.ofError_ok, ok_bind, e.toRpn_eq_toRpn_tree]
  exact Rpn.evaluate_toRpn e.tree

/-- Only the check of the tokens and the applications of operators can fail. -/
theorem calculate_eq (tokens : List String) :
    calculate tokens = Failure.ofError (Infix.validate tokens >>= fun e => e.terms.eval) := by
  cases h : Infix.validate tokens with
  | error c => simp [calculate, h]
  | ok e => rw [calculate_of_validate h, ok_bind]

/-- A calculation ends in a word, or with an error of its own in the tokens or in the evaluation. -/
theorem calculate_cases (tokens : List String) :
    (∃ w : Word, calculate tokens = .ok w.value) ∨
      ∃ c, calculate tokens = .error (.error c) ∧
        (Infix.validate tokens = .error c ∨ ∃ e, Infix.validate tokens = .ok e ∧ e.tree.eval = .error c) := by
  rw [calculate_eq]
  cases Infix.validate tokens with
  | error c => exact .inr ⟨c, rfl, .inl rfl⟩
  | ok e =>
    rw [ok_bind, ← Terms.eval_tree]
    cases heval : e.terms.tree.eval with
    | error c => exact .inr ⟨c, rfl, .inr ⟨e, rfl, heval⟩⟩
    | ok v => exact .inl ⟨⟨v, Tree.inRange_of_eval heval⟩, rfl⟩

/-- The calculation of a valid expression is the fold over its terms. It has a value exactly where every
application of the unbounded evaluation is sound, namely the unbounded value, and otherwise it has the
error of the first application that is not. -/
theorem calculate_folds_terms (tokens : List String) (e : Infix)
    (h : Infix.validate tokens = .ok e) :
    e.terms.tokens = e.tokens ∧ e.terms.WellCut ∧
      calculate tokens = Failure.ofError e.terms.eval ∧
      (∀ v, calculate tokens = .ok v ↔ (∀ a ∈ e.terms.applications, a.Sound) ∧ v = e.terms.exact) ∧
      ∀ c, calculate tokens = .error (.error c) ↔
        ∃ before a after, e.terms.applications = before ++ a :: after ∧ (∀ b ∈ before, b.Sound) ∧
          a.op.apply a.left a.right = .error c := by
  have hcalc := calculate_of_validate h
  refine ⟨e.tokens_terms, e.wellCut_terms, hcalc, ?_, ?_⟩
  · intro v
    rw [hcalc, ← Application.answer_eq_ok_iff, ← Terms.eval_eq_answer]
    cases e.terms.eval <;> simp
  · intro c
    rw [hcalc, ← Application.answer_eq_error_iff _ e.terms.exact, ← Terms.eval_eq_answer]
    cases e.terms.eval <;> simp

/-- The sum overflows before the remainder is looked at, which has no value either. -/
theorem calculate_reports_first_overflow :
    ∃ e, Infix.validate ["9223372036854775807", "+", "6", "/", "2", "-", "7", "%", "0"] = .ok e ∧
      calculate ["9223372036854775807", "+", "6", "/", "2", "-", "7", "%", "0"] =
        .error (.error (.outOfBounds 9223372036854775807 3 .add)) := by
  have h : Infix.validate ["9223372036854775807", "+", "6", "/", "2", "-", "7", "%", "0"] =
      .ok ⟨_, ⟨9223372036854775807, by decide⟩,
        [(.add, ⟨6, by decide⟩), (.div, ⟨2, by decide⟩), (.sub, ⟨7, by decide⟩), (.mod, ⟨0, by decide⟩)]⟩ :=
    rfl
  exact ⟨_, h, (calculate_folds_terms _ _ h).2.2.1.trans rfl⟩

/-- The tags by which outcomes tell errors apart. -/
def CalcError.kinds : List String :=
  ["InvalidInput", "InvalidNumber", "NumberOverflow", "InvalidOperator", "DivisionByZero", "OutOfBounds"]

theorem CalcError.kind_mem_kinds (c : CalcError) : c.kind ∈ kinds := by
  cases c <;> simp [kind, kinds]

namespace Outcome

@[simp] theorem build_word (expression : String) (w : Word) (kind : Option String) :
    build expression (some w.value) none kind = .ok (.value expression w kind) := by
  simp [build, Checked.atField, ofParts]

@[simp] theorem build_failure (expression message kind : String) :
    build expression none (some message) (some kind) = .ok (.failure expression message kind) :=
  rfl

end Outcome

namespace Request

theorem result_run_of_ok {r : Request} {w : Word} (h : calculate r.tokens = .ok w.value) :
    r.run.result = .ok (.value r.expression w none) := by
  simp [run, h]

theorem result_run_of_error {r : Request} {c : CalcError} (h : calculate r.tokens = .error (.error c)) :
    r.run.result = .ok (.failure r.expression c.message c.kind) := by
  simp [run, h]

end Request

/-- Every run has an outcome. No sequence that the conversion makes is refused, and neither is the outcome
that is built from the calculation: with its value, which is a word, or with the text and the tag of its
error. -/
theorem run_mirrors_calculate (tokens : List String) :
    ∃ o : Outcome, (Request.run ⟨tokens⟩).result = .ok o ∧
      o.expression = " ".intercalate tokens ∧
      (o.succeeded = true ↔ ∃ v, calculate tokens = .ok v) ∧
      (∀ v, calculate tokens = .ok v →
        Outcome.build (" ".intercalate tokens) (some v) none none = .ok o ∧ InRange v ∧
          o.result?.map Word.value = some v ∧ o.error? = none ∧ o.kind? = none) ∧
      (∀ f, calculate tokens = .error f → ∃ c, f = .error c ∧
        Outcome.build (" ".intercalate tokens) none (some c.message) (some c.kind) = .ok o ∧
          o.result? = none ∧ o.error? = some c.message ∧ o.kind? = some c.kind ∧ c.kind ∈ CalcError.kinds) ∧
      ∀ e, Infix.validate tokens = .ok e → ∃ p, Rpn.build (Yard.convert e.tokens) = .ok p := by
  have hbuild : ∀ e, Infix.validate tokens = .ok e → ∃ p, Rpn.build (Yard.convert e.tokens) = .ok p := by
    intro e _
    exact ⟨e.tree.toRpn, by rw [e.convert_tokens, Rpn.build_postorder]⟩
  rcases calculate_cases tokens with ⟨w, hw⟩ | ⟨c, hc, -⟩
  · refine ⟨_, Request.result_run_of_ok hw, rfl, ?_, ?_, ?_, hbuild⟩
    · simp [hw, Outcome.succeeded, Outcome.error?]
    · intro v hv
      rw [hw] at hv
      cases hv
      exact ⟨Outcome.build_word _ w none, w.inRange, rfl, rfl, rfl⟩
    · intro f hf
      simp [hw] at hf
  · refine ⟨_, Request.result_run_of_error hc, rfl, ?_, ?_, ?_, hbuild⟩
    · simp [hc, Outcome.succeeded, Outcome.error?]
    · intro v hv
      simp [hc] at hv
    · intro f hf
      rw [hc] at hf
      cases hf
      exact ⟨c, rfl, Outcome.build_failure _ _ _, rfl, rfl, rfl, c.kind_mem_kinds⟩

end Calculator
