import Calculator.Proofs.PrintedExpressions

/-!
# Messages that name their error

A message is a heading, a colon and a detail. The heading holds no colon and tells the kinds of errors apart, and the
detail gives back what the error carries, whatever text a token is. Runs that fail with the same text have therefore
failed with the same error.
-/

namespace Calculator

/-- A list is cut uniquely at the first place of an item. -/
theorem append_cons_inj {a : α} {xs ys zs ws : List α} (hx : a ∉ xs) (hy : a ∉ ys) (h : xs ++ a :: zs = ys ++ a :: ws) :
    xs = ys ∧ zs = ws := by
  induction xs generalizing ys with
  | nil =>
    cases ys with
    | nil => exact ⟨rfl, List.tail_eq_of_cons_eq h⟩
    | cons y ys =>
      obtain ⟨rfl, -⟩ := List.cons.inj h
      exact absurd List.mem_cons_self hy
  | cons x xs ih =>
    cases ys with
    | nil =>
      obtain ⟨rfl, -⟩ := List.cons.inj h
      exact absurd List.mem_cons_self hx
    | cons y ys =>
      obtain ⟨rfl, htail⟩ := List.cons.inj h
      obtain ⟨rfl, hrest⟩ := ih (List.not_mem_of_not_mem_cons hx) (List.not_mem_of_not_mem_cons hy) htail
      exact ⟨rfl, hrest⟩

theorem space_notMem_toString (v : Int) : ' ' ∉ (toString v).toList :=
  (isSignedDigits_toString v).notMem (by decide) (by decide)

/-- An integer in print ends at the first space behind it. -/
theorem toString_append_inj {v v' : Int} {zs ws : List Char}
    (h : (toString v).toList ++ ' ' :: zs = (toString v').toList ++ ' ' :: ws) : v = v' ∧ zs = ws := by
  obtain ⟨htext, hrest⟩ := append_cons_inj (space_notMem_toString v) (space_notMem_toString v') h
  have hread := readInt?_toString v
  rw [String.toList_inj.mp htext, readInt?_toString, Option.some.injEq] at hread
  exact ⟨hread.symm, hrest⟩

/-- So does an operator, also where a minus sign comes next. -/
theorem Operator.symbol_append_inj {op op' : Operator} {zs ws : List Char}
    (h : op.symbol.toList ++ ' ' :: zs = op'.symbol.toList ++ ' ' :: ws) : op = op' ∧ zs = ws := by
  obtain ⟨hsymbol, hrest⟩ := append_cons_inj (Token.operator op).space_notMem_text
    (Token.operator op').space_notMem_text h
  have hop := (ofSymbol?_eq_some_iff op.symbol op').mpr (String.toList_inj.mp hsymbol)
  rw [ofSymbol?_symbol, Option.some.injEq] at hop
  exact ⟨hop, hrest⟩

namespace CalcError

/-- What a message says before its first colon. -/
def heading : CalcError → String
  | .invalidInput => "Incomplete expression"
  | .invalidNumber _ => "Invalid number"
  | .numberOverflow _ => "Out of bounds integer"
  | .invalidOperator _ => "Unknown operator"
  | .divisionByZero .. => "Division by zero"
  | .outOfBounds .. => "Integer overflow"

/-- What a message says behind its heading. -/
def detail : CalcError → String
  | .invalidInput => "Expected input of the form [number] [operator number ...]"
  | .invalidNumber token | .numberOverflow token | .invalidOperator token => token
  | .divisionByZero dividend op => toString dividend ++ " " ++ op.symbol ++ " 0"
  | .outOfBounds left right op =>
    toString left ++ " " ++ op.symbol ++ " " ++ toString right ++
      " is outside [-9223372036854775808, 9223372036854775807]"

theorem message_eq (c : CalcError) : c.message = c.heading ++ ": " ++ c.detail := by
  cases c with
  | divisionByZero | outOfBounds =>
    dsimp only [message, heading, detail]
    simp only [← String.append_assoc]
    rfl
  | _ => rfl

theorem colon_notMem_heading (c : CalcError) : ':' ∉ c.heading.toList := by
  cases c <;> dsimp only [heading] <;> decide

theorem heading_detail_inj {c c' : CalcError} (h : c.message = c'.message) :
    c.heading = c'.heading ∧ c.detail = c'.detail := by
  have hlist := congrArg String.toList h
  simp only [message_eq, String.toList_append, List.append_assoc] at hlist
  obtain ⟨hheading, hdetail⟩ := append_cons_inj c.colon_notMem_heading c'.colon_notMem_heading hlist
  exact ⟨String.toList_inj.mp hheading, String.toList_inj.mp (List.cons.inj hdetail).2⟩

theorem divisionByZero_of_detail {a a' : Int} {op op' : Operator}
    (h : detail (.divisionByZero a op) = detail (.divisionByZero a' op')) : a = a' ∧ op = op' := by
  have hlist := congrArg String.toList h
  simp only [detail, String.toList_append, List.append_assoc] at hlist
  obtain ⟨ha, hrest⟩ := toString_append_inj hlist
  obtain ⟨hop, -⟩ := Operator.symbol_append_inj hrest
  exact ⟨ha, hop⟩

theorem outOfBounds_of_detail {a a' b b' : Int} {op op' : Operator}
    (h : detail (.outOfBounds a b op) = detail (.outOfBounds a' b' op')) : a = a' ∧ b = b' ∧ op = op' := by
  have hlist := congrArg String.toList h
  simp only [detail, String.toList_append, List.append_assoc] at hlist
  obtain ⟨ha, hoperation⟩ := toString_append_inj hlist
  obtain ⟨hop, hright⟩ := Operator.symbol_append_inj hoperation
  obtain ⟨hb, -⟩ := toString_append_inj hright
  exact ⟨ha, hb, hop⟩

theorem eq_of_message {c c' : CalcError} (h : c.message = c'.message) : c = c' := by
  obtain ⟨hheading, hdetail⟩ := heading_detail_inj h
  cases c with
  | invalidInput =>
    cases c' with
    | invalidInput => rfl
    | _ => simp [heading] at hheading
  | invalidNumber token =>
    cases c' with
    | invalidNumber token' => exact congrArg invalidNumber hdetail
    | _ => simp [heading] at hheading
  | numberOverflow token =>
    cases c' with
    | numberOverflow token' => exact congrArg numberOverflow hdetail
    | _ => simp [heading] at hheading
  | invalidOperator token =>
    cases c' with
    | invalidOperator token' => exact congrArg invalidOperator hdetail
    | _ => simp [heading] at hheading
  | divisionByZero dividend op =>
    cases c' with
    | divisionByZero dividend' op' =>
      obtain ⟨rfl, rfl⟩ := divisionByZero_of_detail hdetail
      rfl
    | _ => simp [heading] at hheading
  | outOfBounds left right op =>
    cases c' with
    | outOfBounds left' right' op' =>
      obtain ⟨rfl, rfl, rfl⟩ := outOfBounds_of_detail hdetail
      rfl
    | _ => simp [heading] at hheading

end CalcError

/-- The text of an outcome is the message of the error that the calculation ended with. -/
theorem Request.exists_error_of_run {tokens : List String} {o : Outcome} {text : String}
    (h : (run ⟨tokens⟩).result = .ok o) (htext : o.error? = some text) :
    ∃ c, calculate tokens = .error (.error c) ∧ o.kind? = some c.kind ∧ c.message = text := by
  rcases calculate_cases tokens with ⟨w, hw⟩ | ⟨c, hc, -⟩
  · rw [result_run_of_ok hw, Except.ok.injEq] at h
    subst h
    simp [Outcome.error?] at htext
  · rw [result_run_of_error hc, Except.ok.injEq] at h
    subst h
    exact ⟨c, hc, rfl, Option.some.inj htext⟩

/-- Errors with the same message are of the same kind and carry the same, whatever their tokens and operands are.
Where two runs fail with the same text, their calculations have failed with the same error. -/
theorem message_names_error :
    (∀ c c' : CalcError, c.message = c'.message → c.kind = c'.kind ∧ c.context = c'.context ∧ c = c') ∧
      ∀ tokens tokens' o o' text, (Request.run ⟨tokens⟩).result = .ok o → (Request.run ⟨tokens'⟩).result = .ok o' →
        o.error? = some text → o'.error? = some text →
        ∃ c, calculate tokens = .error (.error c) ∧ calculate tokens' = .error (.error c) ∧ c.message = text ∧
          o.kind? = some c.kind ∧ o'.kind? = some c.kind := by
  constructor
  · intro c c' h
    obtain rfl := CalcError.eq_of_message h
    exact ⟨rfl, rfl, rfl⟩
  · intro tokens tokens' o o' text h h' htext htext'
    obtain ⟨c, hc, hkind, hmessage⟩ := Request.exists_error_of_run h htext
    obtain ⟨c', hc', hkind', hmessage'⟩ := Request.exists_error_of_run h' htext'
    obtain rfl := CalcError.eq_of_message (hmessage.trans hmessage'.symm)
    exact ⟨c, hc, hc', hmessage, hkind, hkind'⟩

end Calculator
