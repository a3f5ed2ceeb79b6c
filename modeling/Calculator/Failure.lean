import Calculator.Arithmetic
import Calculator.Text

/-!
# Failures and records

What a check of named fields reports is a path to the place at fault and the problem found there; checks of several
fields stand side by side, and all their problems are kept in order. A calculation stops with an `error` only: the
other failures belong to values built by hand, to settings, and to faults that the stages rule out. Logged computations
leave records of what they did, which stay when a later step fails.
-/

namespace Calculator

inductive PathStep where
  | field (name : String)
  | index (i : Nat)
  deriving DecidableEq, Repr

inductive Problem where
  | missing
  | notText
  | notList
  | notInteger
  /-- A text that does not read as an integer. -/
  | unreadableInteger
  /-- A number with a fraction that is not zero. -/
  | fractional
  /-- An infinity, or no number at all. -/
  | notFinite
  /-- A text with too many digits, or a floating-point number beyond 63 bits. -/
  | oversized
  | tooShort
  | belowMinimum
  | aboveMaximum
  /-- A rule of the model itself, with its wording. -/
  | rule (message : String)
  deriving DecidableEq, Repr

namespace Problem

def code : Problem → String
  | .missing => "missing"
  | .notText => "string_type"
  | .notList => "list_type"
  | .notInteger => "int_type"
  | .unreadableInteger => "int_parsing"
  | .fractional => "int_from_float"
  | .notFinite => "finite_number"
  | .oversized => "int_parsing_size"
  | .tooShort => "too_short"
  | .belowMinimum => "greater_than_equal"
  | .aboveMaximum => "less_than_equal"
  | .rule _ => "value_error"

/-- Only the model's own rules come with a wording. -/
def message? : Problem → Option String
  | .rule message => some ("Value error, " ++ message)
  | _ => none

end Problem

structure FieldError where
  path : List PathStep
  problem : Problem
  deriving DecidableEq, Repr

def PathStep.text : PathStep → String
  | .field name => name
  | .index i => toString i

/-- One line for a reader: the path, and the wording or the code of the problem. -/
def FieldError.text (e : FieldError) : String :=
  ".".intercalate (e.path.map PathStep.text) ++ ": " ++ e.problem.message?.getD e.problem.code

abbrev Checked (α : Type) := Except (List FieldError) α

namespace Checked

/-- A problem of one named field. -/
def refuse (name : String) (problem : Problem) : Checked α :=
  .error [⟨[.field name], problem⟩]

/-- A problem of the model as a whole. -/
def refuseModel (message : String) : Checked α :=
  .error [⟨[], .rule message⟩]

/-- Places the problem of a single value at a named field. -/
def atField (name : String) : Except Problem α → Checked α
  | .ok a => .ok a
  | .error problem => refuse name problem

/-- Two checks side by side: the problems of both are reported, the left ones first. -/
def both : Checked α → Checked β → Checked (α × β)
  | .ok a, .ok b => .ok (a, b)
  | .ok _, .error es => .error es
  | .error es, .ok _ => .error es
  | .error es, .error fs => .error (es ++ fs)

@[simp] theorem both_eq_ok_iff (x : Checked α) (y : Checked β) (p : α × β) :
    both x y = .ok p ↔ x = .ok p.1 ∧ y = .ok p.2 := by
  obtain ⟨a, b⟩ := p
  cases x <;> cases y <;> simp [both]

end Checked

@[simp] theorem ok_bind (a : α) (f : α → Except ε β) : (Except.ok a >>= f) = f a := rfl
@[simp] theorem error_bind (e : ε) (f : α → Except ε β) : (Except.error e >>= f) = .error e := rfl

theorem bind_eq_ok_iff (x : Except ε α) (f : α → Except ε β) (b : β) :
    (x >>= f) = .ok b ↔ ∃ a, x = .ok a ∧ f a = .ok b := by
  cases x <;> simp

inductive Failure where
  | error (e : CalcError)
  /-- A value was refused by the checks of its model. -/
  | rejected (errors : List FieldError)
  /-- An operator or the final result found no value on the stack. -/
  | emptyStack
  | unknownSymbol (symbol : String)
  /-- A level that no name belongs to, in upper case. -/
  | unknownLevel (name : String)
  deriving DecidableEq, Repr

namespace Failure

/-- The wording of a failure that has neither a context nor a path. -/
def message : Failure → String
  | .error e => e.message
  | .rejected _ => "rejected"
  | .emptyStack => "empty stack"
  | .unknownSymbol symbol => quote symbol ++ " is not a valid Operator"
  | .unknownLevel name => "Unknown level: " ++ quote name

def ofError : Except CalcError α → Except Failure α
  | .ok a => .ok a
  | .error e => .error (.error e)

@[simp] theorem ofError_ok (a : α) : ofError (.ok a) = .ok a := rfl
@[simp] theorem ofError_error (e : CalcError) :
    ofError (.error e : Except CalcError α) = .error (.error e) := rfl

@[simp] theorem ofError_bind (x : Except CalcError α) (f : α → Except CalcError β) :
    ofError (x >>= f) = ofError x >>= fun a => ofError (f a) := by
  cases x <;> rfl

def ofChecked : Checked α → Except Failure α
  | .ok a => .ok a
  | .error errors => .error (.rejected errors)

@[simp] theorem ofChecked_ok (a : α) : ofChecked (.ok a) = .ok a := rfl
@[simp] theorem ofChecked_error (errors : List FieldError) :
    ofChecked (.error errors : Checked α) = .error (.rejected errors) := rfl

end Failure

inductive Severity where
  | debug | info | error
  deriving DecidableEq, Repr

namespace Severity

def number : Severity → Nat
  | .debug => 10
  | .info => 20
  | .error => 40

def text : Severity → String
  | .debug => "DEBUG"
  | .info => "INFO"
  | .error => "ERROR"

end Severity

structure Record where
  severity : Severity
  message : String
  deriving DecidableEq, Repr

structure Logged (α : Type) where
  records : List Record
  result : Except Failure α

namespace Logged

def bind (x : Logged α) (f : α → Logged β) : Logged β :=
  match x.result with
  | .ok a =>
    let y := f a
    ⟨x.records ++ y.records, y.result⟩
  | .error e => ⟨x.records, .error e⟩

instance : Monad Logged where
  pure a := ⟨[], .ok a⟩
  bind := bind

@[simp] theorem records_pure (a : α) : (pure a : Logged α).records = [] := rfl
@[simp] theorem result_pure (a : α) : (pure a : Logged α).result = .ok a := rfl

@[simp] theorem result_bind (x : Logged α) (f : α → Logged β) :
    (x >>= f).result = x.result >>= fun a => (f a).result := by
  obtain ⟨records, result⟩ := x
  cases result <;> rfl

@[simp] theorem result_map (f : α → β) (x : Logged α) : (f <$> x).result = x.result.map f := by
  obtain ⟨records, result⟩ := x
  cases result <;> rfl

@[simp] theorem records_map (f : α → β) (x : Logged α) : (f <$> x).records = x.records := by
  obtain ⟨records, result⟩ := x
  cases result with
  | ok a => exact List.append_nil records
  | error e => rfl

theorem bind_of_ok (records : List Record) (a : α) (f : α → Logged β) :
    (⟨records, .ok a⟩ >>= f : Logged β) = ⟨records ++ (f a).records, (f a).result⟩ := rfl

theorem bind_of_error (records : List Record) (e : Failure) (f : α → Logged β) :
    (⟨records, .error e⟩ >>= f : Logged β) = ⟨records, .error e⟩ := rfl

/-- A computation that leaves no record. -/
def quiet (x : Except Failure α) : Logged α := ⟨[], x⟩

/-- A stage that leaves one record if it succeeds. -/
def stage (severity : Severity) (message : α → String) (x : Except Failure α) : Logged α :=
  match x with
  | .ok a => ⟨[⟨severity, message a⟩], .ok a⟩
  | .error e => ⟨[], .error e⟩

@[simp] theorem result_stage (severity : Severity) (message : α → String)
    (x : Except Failure α) : (stage severity message x).result = x := by
  cases x <;> rfl

end Logged

end Calculator
