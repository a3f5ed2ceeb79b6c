import Calculator.Value

/-!
# Checks of several fields

Each field is read by itself, and what the readings refuse is put one after the other. A record of fields is therefore
either read as a whole or answered with a list of its bad fields, each of them once and in the order in which the
fields are declared.
-/

namespace Calculator

/-- The faults of some fields and nothing else, in the order of the names. -/
structure ListsFaults (fault : String → Problem → Prop) (names : List String) (errors : List FieldError) : Prop where
  order : (errors.map FieldError.path).Sublist (names.map fun name => [.field name])
  mem_iff (name : String) (problem : Problem) :
    ⟨[.field name], problem⟩ ∈ errors ↔ name ∈ names ∧ fault name problem

namespace ListsFaults

variable {fault : String → Problem → Prop} {names names' : List String} {errors errors' : List FieldError}

theorem append (h : ListsFaults fault names errors) (h' : ListsFaults fault names' errors') :
    ListsFaults fault (names ++ names') (errors ++ errors') where
  order := by
    rw [List.map_append, List.map_append]
    exact h.order.append h'.order
  mem_iff name problem := by
    rw [List.mem_append, h.mem_iff, h'.mem_iff, List.mem_append, or_and_right]

end ListsFaults

namespace Checked

variable {α β : Type} {fault : String → Problem → Prop} {names names' : List String}

/-- What a check reports, which is nothing if it accepts. -/
def errors : Checked α → List FieldError
  | .ok _ => []
  | .error errors => errors

@[simp] theorem errors_ok (a : α) : Checked.errors (.ok a) = [] := rfl

@[simp] theorem errors_refuse (name : String) (problem : Problem) :
    (refuse name problem : Checked α).errors = [⟨[.field name], problem⟩] := rfl

theorem errors_both (x : Checked α) (y : Checked β) : (both x y).errors = x.errors ++ y.errors := by
  cases x <;> cases y <;> simp [both, errors]

theorem errors_map (x : Checked α) (f : α → β) : Checked.errors (x.map f) = x.errors := by
  cases x <;> rfl

/-- A check that reports the faults of some fields, and accepts if there are none. -/
structure Reports (fault : String → Problem → Prop) (names : List String) (x : Checked α) : Prop where
  lists : ListsFaults fault names x.errors
  accepts : x.errors = [] → ∃ a, x = .ok a

theorem Reports.both {x : Checked α} {y : Checked β} (hx : Reports fault names x) (hy : Reports fault names' y) :
    Reports fault (names ++ names') (both x y) where
  lists := by
    rw [errors_both]
    exact hx.lists.append hy.lists
  accepts h := by
    rw [errors_both, List.append_eq_nil_iff] at h
    obtain ⟨a, rfl⟩ := hx.accepts h.1
    obtain ⟨b, rfl⟩ := hy.accepts h.2
    exact ⟨(a, b), rfl⟩

theorem Reports.map {x : Checked α} (hx : Reports fault names x) (f : α → β) :
    Reports fault names (x.map f : Checked β) where
  lists := by
    rw [errors_map]
    exact hx.lists
  accepts h := by
    rw [errors_map] at h
    obtain ⟨a, rfl⟩ := hx.accepts h
    exact ⟨f a, rfl⟩

theorem reports_ok {name : String} (a : α) (h : ∀ p, ¬fault name p) :
    Reports fault [name] (.ok a : Checked α) where
  lists := by
    refine ⟨List.nil_sublist _, fun name' problem => ?_⟩
    simp only [errors_ok, List.not_mem_nil, List.mem_singleton, false_iff, not_and]
    rintro rfl
    exact h problem
  accepts _ := ⟨a, rfl⟩

theorem reports_refuse {name : String} {problem : Problem} (h : ∀ p, fault name p ↔ p = problem) :
    Reports fault [name] (refuse name problem : Checked α) where
  lists := by
    refine ⟨List.Sublist.refl _, fun name' p => ?_⟩
    simp only [errors_refuse, List.mem_singleton, FieldError.mk.injEq, List.cons.injEq, PathStep.field.injEq, and_true]
    constructor
    · rintro ⟨rfl, rfl⟩
      exact ⟨rfl, (h p).mpr rfl⟩
    · rintro ⟨rfl, hfault⟩
      exact ⟨rfl, (h p).mp hfault⟩
  accepts h := by simp at h

/-- A check of one field reports one fault at most. -/
theorem reports_atField {name : String} {r : Except Problem α} (h : ∀ p, r = .error p ↔ fault name p) :
    Reports fault [name] (atField name r) := by
  cases r with
  | ok a => exact reports_ok a fun p hfault => by simpa using (h p).mpr hfault
  | error problem => exact reports_refuse fun p => by rw [← h p, Except.error.injEq, eq_comm]

theorem Reports.of_error {x : Checked α} {errors : List FieldError} (hx : Reports fault names x)
    (h : x = .error errors) : errors ≠ [] ∧ ListsFaults fault names errors := by
  subst h
  refine ⟨fun hnil => ?_, hx.lists⟩
  obtain ⟨a, ha⟩ := hx.accepts hnil
  simp at ha

theorem atField_eq_ok_iff {name : String} {r : Except Problem α} {a : α} : atField name r = .ok a ↔ r = .ok a := by
  cases r <;> simp [atField, refuse]

end Checked

namespace Fields

variable {α : Type} {fields : Fields} {name : String} {read : Value → Except Problem α} {good : Value → α → Prop}
  {bad : Value → Problem → Prop}

/-- What is wrong with a field that has to be given. -/
inductive RequiredFault (fields : Fields) (name : String) (bad : Value → Problem → Prop) : Problem → Prop where
  | missing (h : fields.lookup name = none) : RequiredFault fields name bad .missing
  | bad {v : Value} {p : Problem} (h : fields.lookup name = some v) (hv : bad v p) : RequiredFault fields name bad p

/-- What is wrong with a field that may be absent or null. -/
inductive OptionalFault (fields : Fields) (name : String) (bad : Value → Problem → Prop) : Problem → Prop where
  | bad {v : Value} {p : Problem} (h : fields.lookup name = some v) (hnull : v ≠ .null) (hv : bad v p) :
      OptionalFault fields name bad p

/-- What an optional field holds. -/
inductive Holds (fields : Fields) (name : String) (good : Value → α → Prop) : Option α → Prop where
  | absent (h : fields.lookup name = none) : Holds fields name good none
  | null (h : fields.lookup name = some .null) : Holds fields name good none
  | given {v : Value} {a : α} (h : fields.lookup name = some v) (hv : good v a) : Holds fields name good (some a)

theorem Holds.mono {a : Option α} {good' : Value → α → Prop} (h : fields.Holds name good a)
    (himp : ∀ v a, good v a → good' v a) : fields.Holds name good' a := by
  cases h with
  | absent h => exact .absent h
  | null h => exact .null h
  | given h hv => exact .given h (himp _ _ hv)

theorem required_of_none (h : fields.lookup name = none) :
    fields.required name read = Checked.refuse name .missing := by
  simp only [required, h]

theorem required_of_some {v : Value} (h : fields.lookup name = some v) :
    fields.required name read = Checked.atField name (read v) := by
  simp only [required, h]

theorem required_eq_ok_iff {a : α} :
    fields.required name read = .ok a ↔ ∃ v, fields.lookup name = some v ∧ read v = .ok a := by
  cases h : fields.lookup name with
  | none => simp [required_of_none h, Checked.refuse]
  | some v => simp [required_of_some h, Checked.atField_eq_ok_iff]

theorem reports_required {fault : String → Problem → Prop}
    (hread : ∀ v p, read v = .error p ↔ bad v p)
    (hfault : ∀ p, fault name p ↔ RequiredFault fields name bad p) :
    Checked.Reports fault [name] (fields.required name read) := by
  cases h : fields.lookup name with
  | none =>
    rw [required_of_none h]
    refine Checked.reports_refuse fun p => (hfault p).trans ?_
    constructor
    · rintro (_ | ⟨hv, _⟩)
      · rfl
      · simp [h] at hv
    · rintro rfl
      exact .missing h
  | some v =>
    rw [required_of_some h]
    refine Checked.reports_atField fun p => (hread v p).trans ((hfault p).trans ?_).symm
    constructor
    · rintro (hnone | ⟨hv, hbad⟩)
      · simp [h] at hnone
      · rw [h, Option.some.injEq] at hv
        exact hv ▸ hbad
    · exact .bad h

/-- Null stands for a field that is not given. -/
theorem optional_of_absent (h : fields.lookup name = none ∨ fields.lookup name = some .null) :
    fields.optional name read = .ok none := by
  rcases h with h | h <;> simp only [optional, h]

theorem optional_of_some {v : Value} (h : fields.lookup name = some v) (hnull : v ≠ .null) :
    fields.optional name read = (Checked.atField name (read v)).map some := by
  unfold optional
  split
  · simp_all
  · simp_all
  · simp_all

/-- An optional field has no value or one other than null. -/
theorem lookup_cases (fields : Fields) (name : String) :
    (fields.lookup name = none ∨ fields.lookup name = some .null) ∨
      ∃ v, fields.lookup name = some v ∧ v ≠ .null := by
  cases h : fields.lookup name with
  | none => exact .inl (.inl rfl)
  | some v => cases v <;> simp

theorem optional_eq_ok_iff {a : Option α}
    (hread : ∀ v a, read v = .ok a ↔ good v a) (hbad : ∀ a, ¬good .null a) :
    fields.optional name read = .ok a ↔ Holds fields name good a := by
  rcases lookup_cases fields name with h | ⟨v, h, hnull⟩
  · rw [optional_of_absent h, Except.ok.injEq]
    constructor
    · rintro rfl
      exact h.elim .absent .null
    · rintro (_ | _ | ⟨hv, hgood⟩)
      · rfl
      · rfl
      · rcases h with h | h <;> simp_all
  · rw [optional_of_some h hnull]
    constructor
    · intro hok
      cases hv : read v with
      | error p => simp [hv, Checked.atField, Checked.refuse, Except.map] at hok
      | ok b =>
        rw [hv] at hok
        cases hok
        exact .given h ((hread v b).mp hv)
    · rintro (habsent | hzero | ⟨hv, hgood⟩)
      · simp [h] at habsent
      · simp [h, hnull] at hzero
      · rw [h, Option.some.injEq] at hv
        subst hv
        rw [(hread v _).mpr hgood]
        rfl

theorem reports_optional {fault : String → Problem → Prop}
    (hread : ∀ v p, read v = .error p ↔ bad v p)
    (hfault : ∀ p, fault name p ↔ OptionalFault fields name bad p) :
    Checked.Reports fault [name] (fields.optional name read) := by
  rcases lookup_cases fields name with h | ⟨v, h, hnull⟩
  · rw [optional_of_absent h]
    refine Checked.reports_ok none fun p hp => ?_
    obtain ⟨hv, hnull, -⟩ := (hfault p).mp hp
    rcases h with h | h <;> simp_all
  · rw [optional_of_some h hnull]
    refine (Checked.reports_atField fun p => (hread v p).trans ((hfault p).trans ?_).symm).map some
    constructor
    · rintro ⟨hv, -, hbad⟩
      rw [h, Option.some.injEq] at hv
      exact hv ▸ hbad
    · exact .bad h hnull

end Fields

namespace Value

def IsText (v : Value) (s : String) : Prop := v = .text s

inductive TextFault : Value → Problem → Prop where
  | notText {v : Value} (h : ∀ s, ¬v.IsText s) : TextFault v .notText

theorem not_isText_null (s : String) : ¬null.IsText s := by
  rintro ⟨⟩

theorem asText_eq_ok_iff {v : Value} {s : String} : v.asText = .ok s ↔ v.IsText s := by
  cases v <;> simp [asText, IsText]

theorem asText_eq_error_iff {v : Value} {p : Problem} : v.asText = .error p ↔ TextFault v p := by
  constructor
  · intro h
    cases v with
    | text s => simp [asText] at h
    | _ =>
      cases h
      exact .notText (by simp [IsText])
  · rintro ⟨h⟩
    cases v with
    | text s => exact absurd rfl (h s)
    | _ => rfl

end Value

end Calculator
