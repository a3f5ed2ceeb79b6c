import Calculator.Calculation
import Calculator.Proofs.FieldChecks
import Calculator.Proofs.IntegerRule

/-!
# Outcomes read from fields

The fields decide what is read: a text for the expression, a word or nothing for the result, texts or nothing for the
error and its kind. Bad fields are listed and keep the rules of the whole from being looked at. What an outcome holds
can be put into fields again, the result also as text, and gives that outcome.
-/

namespace Calculator

theorem Word.ofInt_eq_ok_iff {n : Int} {w : Word} : Word.ofInt n = .ok w ↔ n = w.value := by
  constructor
  · intro h
    unfold Word.ofInt at h
    split at h
    · cases h
      rfl
    · split at h <;> simp at h
  · rintro rfl
    exact Word.ofInt_value w

theorem Word.ofInt_eq_error_iff {n : Int} {p : Problem} : Word.ofInt n = .error p ↔
    n < minWord ∧ p = .belowMinimum ∨ maxWord < n ∧ p = .aboveMaximum := by
  have hbounds : minWord ≤ maxWord := by decide
  unfold Word.ofInt
  split
  · next h =>
    have hlow : ¬n < minWord := Int.not_lt.mpr h.1
    have hhigh : ¬maxWord < n := Int.not_lt.mpr h.2
    simp [hlow, hhigh]
  · next h =>
    split
    · next hlow =>
      have hhigh : ¬maxWord < n := by omega
      simp [hlow, hhigh, eq_comm]
    · next hlow =>
      have hhigh : maxWord < n := Int.not_le.mp fun hle => h ⟨Int.not_lt.mp hlow, hle⟩
      simp [hlow, hhigh, eq_comm]

namespace Value

/-- A value that an integer field reads as an integer in the range of a word. -/
def IsWord (v : Value) (w : Word) : Prop := v.asInt = .ok w.value

inductive WordFault : Value → Problem → Prop where
  | unread {v : Value} {p : Problem} (h : v.asInt = .error p) : WordFault v p
  | below {v : Value} {n : Int} (h : v.asInt = .ok n) (hn : n < minWord) : WordFault v .belowMinimum
  | above {v : Value} {n : Int} (h : v.asInt = .ok n) (hn : maxWord < n) : WordFault v .aboveMaximum

theorem not_isWord_null (w : Word) : ¬null.IsWord w := by
  rintro ⟨⟩

theorem asWord_eq_ok_iff {v : Value} {w : Word} : v.asWord = .ok w ↔ v.IsWord w := by
  cases h : v.asInt with
  | error p => simp [asWord, IsWord, h]
  | ok n => simp [asWord, IsWord, h, Word.ofInt_eq_ok_iff]

theorem asWord_eq_error_iff {v : Value} {p : Problem} : v.asWord = .error p ↔ WordFault v p := by
  constructor
  · intro h
    cases hv : v.asInt with
    | error q =>
      simp only [asWord, hv, Except.error.injEq] at h
      subst h
      exact .unread hv
    | ok n =>
      simp only [asWord, hv, Word.ofInt_eq_error_iff] at h
      rcases h with ⟨hlow, rfl⟩ | ⟨hhigh, rfl⟩
      · exact .below hv hlow
      · exact .above hv hhigh
  · rintro (h | ⟨h, hn⟩ | ⟨h, hn⟩)
    · simp only [asWord, h]
    · simp [asWord, h, Word.ofInt_eq_error_iff, hn]
    · simp [asWord, h, Word.ofInt_eq_error_iff, hn]

end Value

namespace Outcome

/-- The parts that the fields of an outcome hold if all of them are good. -/
structure Parts (fields : Fields) (expression : String) (result : Option Word) (error kind : Option String) :
    Prop where
  expression : fields.lookup "expression" = some (.text expression)
  result : fields.Holds "result" Value.IsWord result
  error : fields.Holds "error" Value.IsText error
  kind : fields.Holds "error_kind" Value.IsText kind

/-- The fields in the order in which they are declared. -/
def fieldNames : List String := ["expression", "result", "error", "error_kind"]

/-- What is wrong with a field of an outcome. -/
def Fault (fields : Fields) : String → Problem → Prop
  | "expression" => fields.RequiredFault "expression" Value.TextFault
  | "result" => fields.OptionalFault "result" Value.WordFault
  | "error" => fields.OptionalFault "error" Value.TextFault
  | "error_kind" => fields.OptionalFault "error_kind" Value.TextFault
  | _ => fun _ => False

/-- Parts that are good in themselves but make no outcome, and what is said about them. -/
inductive Mismatch : Option Word → Option String → Option String → String → Prop where
  | both (w : Word) (error : String) (kind : Option String) :
      Mismatch (some w) (some error) kind "Exactly one of result and error must be set"
  | neither (kind : Option String) : Mismatch none none kind "Exactly one of result and error must be set"
  | noKind (error : String) : Mismatch none (some error) none "An error result must carry its error kind"

/-- Fields that hold what an outcome holds, the result as an integer or in print. -/
structure Resubmits (o : Outcome) (fields : Fields) : Prop where
  expression : fields.lookup "expression" = some (.text o.expression)
  result : fields.Holds "result" Value.Spells o.result?
  error : fields.Holds "error" Value.IsText o.error?
  kind : fields.Holds "error_kind" Value.IsText o.kind?

theorem ofParts_eq_ok_iff {expression : String} {result : Option Word} {error kind : Option String} {o : Outcome} :
    ofParts expression result error kind = .ok o ↔
      expression = o.expression ∧ result = o.result? ∧ error = o.error? ∧ kind = o.kind? := by
  cases o <;> cases result <;> cases error <;> cases kind <;>
    simp [ofParts, Checked.refuseModel, Outcome.expression, result?, error?, kind?]

theorem ofParts_eq_error_iff {expression : String} {result : Option Word} {error kind : Option String}
    {errors : List FieldError} : ofParts expression result error kind = .error errors ↔
      ∃ message, Mismatch result error kind message ∧ errors = [⟨[], .rule message⟩] := by
  constructor
  · intro h
    cases result with
    | none =>
      cases error with
      | none =>
        cases h
        exact ⟨_, .neither kind, rfl⟩
      | some error =>
        cases kind with
        | none =>
          cases h
          exact ⟨_, .noKind error, rfl⟩
        | some kind => cases h
    | some w =>
      cases error with
      | none => cases h
      | some error =>
        cases h
        exact ⟨_, .both w error kind, rfl⟩
  · rintro ⟨message, hmismatch, rfl⟩
    cases hmismatch <;> rfl

/-- The fields read one after the other. -/
def checkFields (fields : Fields) : Checked (String × Option Word × Option String × Option String) :=
  Checked.both (fields.required "expression" Value.asText)
    (Checked.both (fields.optional "result" Value.asWord)
      (Checked.both (fields.optional "error" Value.asText) (fields.optional "error_kind" Value.asText)))

theorem ofFields_eq (fields : Fields) : ofFields fields =
    match checkFields fields with
    | .ok (expression, result, error, kind) => ofParts expression result error kind
    | .error errors => .error errors := rfl

variable {fields : Fields}

theorem checkFields_eq_ok_iff {expression : String} {result : Option Word} {error kind : Option String} :
    checkFields fields = .ok (expression, result, error, kind) ↔ Parts fields expression result error kind := by
  have hexpression : fields.required "expression" Value.asText = .ok expression ↔
      fields.lookup "expression" = some (.text expression) := by
    simp [Fields.required_eq_ok_iff, Value.asText_eq_ok_iff, Value.IsText]
  have hresult : fields.optional "result" Value.asWord = .ok result ↔ fields.Holds "result" Value.IsWord result :=
    Fields.optional_eq_ok_iff (fun _ _ => Value.asWord_eq_ok_iff) Value.not_isWord_null
  have htext (name : String) (text : Option String) :
      fields.optional name Value.asText = .ok text ↔ fields.Holds name Value.IsText text :=
    Fields.optional_eq_ok_iff (fun _ _ => Value.asText_eq_ok_iff) Value.not_isText_null
  simp only [checkFields, Checked.both_eq_ok_iff, hexpression, hresult, htext]
  constructor
  · rintro ⟨he, hr, hm, hk⟩
    exact ⟨he, hr, hm, hk⟩
  · rintro ⟨he, hr, hm, hk⟩
    exact ⟨he, hr, hm, hk⟩

theorem reports_checkFields : Checked.Reports (Fault fields) fieldNames (checkFields fields) := by
  have hexpression : Checked.Reports (Fault fields) ["expression"] (fields.required "expression" Value.asText) :=
    Fields.reports_required (fun _ _ => Value.asText_eq_error_iff) fun _ => Iff.rfl
  have hresult : Checked.Reports (Fault fields) ["result"] (fields.optional "result" Value.asWord) :=
    Fields.reports_optional (fun _ _ => Value.asWord_eq_error_iff) fun _ => Iff.rfl
  have herror : Checked.Reports (Fault fields) ["error"] (fields.optional "error" Value.asText) :=
    Fields.reports_optional (fun _ _ => Value.asText_eq_error_iff) fun _ => Iff.rfl
  have hkind : Checked.Reports (Fault fields) ["error_kind"] (fields.optional "error_kind" Value.asText) :=
    Fields.reports_optional (fun _ _ => Value.asText_eq_error_iff) fun _ => Iff.rfl
  exact hexpression.both (hresult.both (herror.both hkind))

theorem ofFields_eq_ok_iff {o : Outcome} :
    ofFields fields = .ok o ↔ Parts fields o.expression o.result? o.error? o.kind? := by
  rw [ofFields_eq, ← checkFields_eq_ok_iff]
  cases hcheck : checkFields fields with
  | error errors => simp
  | ok parts =>
    obtain ⟨expression, result, error, kind⟩ := parts
    simp [ofParts_eq_ok_iff]

/-- A refusal lists the bad fields, or if there are none it is about the parts together. -/
theorem ofFields_eq_error {errors : List FieldError} (h : ofFields fields = .error errors) :
    (errors ≠ [] ∧ ListsFaults (Fault fields) fieldNames errors) ∨
      ∃ expression result error kind message, Parts fields expression result error kind ∧
        Mismatch result error kind message ∧ errors = [⟨[], .rule message⟩] := by
  rw [ofFields_eq] at h
  cases hcheck : checkFields fields with
  | error errors' =>
    rw [hcheck] at h
    cases h
    exact .inl (reports_checkFields.of_error hcheck)
  | ok parts =>
    obtain ⟨expression, result, error, kind⟩ := parts
    rw [hcheck] at h
    obtain ⟨message, hmismatch, herrors⟩ := ofParts_eq_error_iff.mp h
    exact .inr ⟨expression, result, error, kind, message, checkFields_eq_ok_iff.mp hcheck, hmismatch, herrors⟩

/-- What an outcome holds makes that outcome again. -/
theorem ofFields_of_resubmits {o : Outcome} (h : o.Resubmits fields) : ofFields fields = .ok o :=
  ofFields_eq_ok_iff.mpr ⟨h.expression, h.result.mono fun _ _ hw => hw.asInt_eq, h.error, h.kind⟩

theorem succeeded_iff (o : Outcome) : o.succeeded = true ↔ o.result? ≠ none := by
  cases o <;> simp [succeeded, error?, result?]

theorem exists_parts_iff (expression : String) {result : Option Word} {error kind : Option String} :
    (∃ o : Outcome, expression = o.expression ∧ result = o.result? ∧ error = o.error? ∧ kind = o.kind?) ↔
      (result = none ↔ error ≠ none) ∧ (error ≠ none → kind ≠ none) := by
  constructor
  · rintro ⟨o, rfl, rfl, rfl, rfl⟩
    cases o <;> simp [result?, error?, kind?]
  · rintro ⟨hone, hkind⟩
    cases result with
    | some w =>
      obtain rfl : error = none := by simpa using hone
      exact ⟨.value expression w kind, rfl, rfl, rfl, rfl⟩
    | none =>
      obtain ⟨message, rfl⟩ := Option.ne_none_iff_exists'.mp (hone.mp rfl)
      obtain ⟨k, rfl⟩ := Option.ne_none_iff_exists'.mp (hkind (by simp))
      exact ⟨.failure expression message k, rfl, rfl, rfl, rfl⟩

end Outcome

/-- Fields make an outcome exactly if each of them is good, just one of result and error is there, and a kind is there
if an error is; the outcome then holds what they hold. A refusal lists every bad field once, in the order of
declaration, or is the single one about the parts together, for which all fields have to be good. What an outcome
holds makes that outcome again, with the result as an integer or in print, and it has succeeded if it has a result.
The field for the result reads values by the rule for integers. -/
theorem outcome_decides_fields (fields : Fields) :
    (∀ o, Outcome.ofFields fields = .ok o ↔ Outcome.Parts fields o.expression o.result? o.error? o.kind?) ∧
      ((∃ o, Outcome.ofFields fields = .ok o) ↔
        ∃ expression result error kind, Outcome.Parts fields expression result error kind ∧
          (result = none ↔ error ≠ none) ∧ (error ≠ none → kind ≠ none)) ∧
      (∀ errors, Outcome.ofFields fields = .error errors →
        (errors ≠ [] ∧ ListsFaults (Outcome.Fault fields) Outcome.fieldNames errors) ∨
          ∃ expression result error kind message, Outcome.Parts fields expression result error kind ∧
            Outcome.Mismatch result error kind message ∧ errors = [⟨[], .rule message⟩]) ∧
      (∀ o, Outcome.ofFields fields = .ok o →
        (o.succeeded = true ↔ o.result? ≠ none) ∧
          ∀ fields', o.Resubmits fields' → Outcome.ofFields fields' = .ok o) ∧
      ∀ v : Value, v.Regular → ∀ r, IntegerRule v r ↔ v.asInt = r := by
  refine ⟨fun o => Outcome.ofFields_eq_ok_iff, ?_, fun errors h => Outcome.ofFields_eq_error h, fun o _ => ?_,
    fun v hv r => hv.integerRule_iff⟩
  · constructor
    · rintro ⟨o, ho⟩
      exact ⟨_, _, _, _, Outcome.ofFields_eq_ok_iff.mp ho, (Outcome.exists_parts_iff _).mp ⟨o, rfl, rfl, rfl, rfl⟩⟩
    · rintro ⟨expression, result, error, kind, hparts, hrules⟩
      obtain ⟨o, rfl, rfl, rfl, rfl⟩ := (Outcome.exists_parts_iff expression).mpr hrules
      exact ⟨o, Outcome.ofFields_eq_ok_iff.mpr hparts⟩
  · exact ⟨o.succeeded_iff, fun fields' h => Outcome.ofFields_of_resubmits h⟩

/-- A result that is spelled with a sign, an underscore and a fraction of zeros. -/
theorem outcome_of_spelled_result :
    Outcome.ofFields [("result", .text " +1_0.0"), ("expression", .text "5 x 2"), ("error", .null)] =
      .ok (.value "5 x 2" ⟨10, by decide⟩ none) := by
  have htext : IsIntegerText " +1_0.0".toList 10 := by
    have hbody : IsGrouped ['1', '_', '0'] ['1', '0'] := .gap rfl (.last rfl)
    have hfraction : IsZeroFraction ['.', '0'] := .zeros (List.cons_ne_nil _ _) (List.forall_mem_singleton.mpr rfl)
    have hform : IsIntegerText ([' '] ++ (['+'] ++ (['1', '_', '0'] ++ ['.', '0']) ++ []))
        (applySign false (Nat.ofDigitChars 10 ['1', '0'] 0)) :=
      .mk (List.forall_mem_singleton.mpr rfl) .plus hbody hfraction (List.forall_mem_nil _)
    exact hform
  obtain ⟨haccepts, -, -, -, hrule⟩ :=
    outcome_decides_fields [("result", .text " +1_0.0"), ("expression", .text "5 x 2"), ("error", .null)]
  have hregular : (Value.text " +1_0.0").Regular := Or.inl ⟨10, htext⟩
  have hread : (Value.text " +1_0.0").asInt = .ok 10 :=
    (hrule _ hregular _).mp (.text htext (natAbs_lt_of_inRange (by decide)))
  exact (haccepts _).mpr ⟨rfl, .given rfl hread, .null rfl, .absent rfl⟩

/-- Two bad fields keep the missing kind from being reported. -/
example : Outcome.ofFields [("error", .text "late"), ("result", .list []), ("expression", .null)] =
    .error [⟨[.field "expression"], .notText⟩, ⟨[.field "result"], .notInteger⟩] :=
  rfl

end Calculator
