/-!
# Checked arithmetic on words

Operands and results are signed 64-bit words. Each of the five operators has an exact result, which is refused if
the divisor is zero or if it leaves the range of a word. The reason for which a calculation fails carries the token
or the operands at fault, and its message is built from these alone.
-/

namespace Calculator

def minWord : Int := -9223372036854775808
def maxWord : Int := 9223372036854775807

/-- The integers that a signed 64-bit word holds. -/
def InRange (v : Int) : Prop := minWord ≤ v ∧ v ≤ maxWord

instance : DecidablePred InRange := fun v =>
  inferInstanceAs (Decidable (minWord ≤ v ∧ v ≤ maxWord))

theorem inRange_iff (v : Int) :
    InRange v ↔ -9223372036854775808 ≤ v ∧ v ≤ 9223372036854775807 :=
  Iff.rfl

structure Word where
  value : Int
  inRange : InRange value
  deriving DecidableEq, Repr

def Word.ofInt? (v : Int) : Option Word :=
  if h : InRange v then some ⟨v, h⟩ else none

@[simp] theorem Word.ofInt?_value (w : Word) : Word.ofInt? w.value = some w := by
  simp [Word.ofInt?, w.inRange]

theorem Word.ofInt?_eq_some_iff (v : Int) (w : Word) :
    Word.ofInt? v = some w ↔ w.value = v := by
  constructor
  · intro h
    unfold Word.ofInt? at h
    split at h
    · cases h; rfl
    · simp at h
  · rintro rfl
    simp

theorem Word.ofInt?_eq_none_iff (v : Int) : Word.ofInt? v = none ↔ ¬InRange v := by
  simp [Word.ofInt?]

def Word.text (w : Word) : String := toString w.value

inductive Operator where
  | add | sub | mul | div | mod
  deriving DecidableEq, Repr

namespace Operator

def all : List Operator := [.add, .sub, .mul, .div, .mod]

def symbol : Operator → String
  | .add => "+"
  | .sub => "-"
  | .mul => "x"
  | .div => "/"
  | .mod => "%"

def name : Operator → String
  | .add => "ADD"
  | .sub => "SUB"
  | .mul => "MUL"
  | .div => "DIV"
  | .mod => "MOD"

/-- Binding strength: higher binds tighter. -/
def precedence : Operator → Nat
  | .add | .sub => 1
  | .mul | .div | .mod => 2

def ofSymbol? (s : String) : Option Operator := all.find? (·.symbol = s)

@[simp] theorem ofSymbol?_symbol (op : Operator) : ofSymbol? op.symbol = some op := by
  cases op <;> decide

theorem ofSymbol?_eq_some_iff (s : String) (op : Operator) :
    ofSymbol? s = some op ↔ s = op.symbol := by
  constructor
  · intro h
    have := List.find?_some h
    simpa using (of_decide_eq_true this).symm
  · rintro rfl
    simp

theorem ofSymbol?_eq_none_iff (s : String) : ofSymbol? s = none ↔ ∀ op : Operator, s ≠ op.symbol := by
  simp only [Option.eq_none_iff_forall_ne_some, ne_eq, ofSymbol?_eq_some_iff]

/-- Division and remainder have no value for a zero divisor. -/
def divides : Operator → Bool
  | .div | .mod => true
  | .add | .sub | .mul => false

/-- Division that rounds toward zero: the quotient of the absolute values, with the sign put back. -/
def truncatedDiv (a b : Int) : Int :=
  let quotient : Int := (a.natAbs / b.natAbs : Nat)
  if a < 0 ↔ b < 0 then quotient else -quotient

theorem truncatedDiv_of_iff {a b : Int} (h : a < 0 ↔ b < 0) :
    truncatedDiv a b = (a.natAbs / b.natAbs : Nat) := if_pos h

theorem truncatedDiv_of_not_iff {a b : Int} (h : ¬(a < 0 ↔ b < 0)) :
    truncatedDiv a b = -((a.natAbs / b.natAbs : Nat) : Int) := if_neg h

/-- What is left of the dividend, which carries its sign. -/
def truncatedMod (a b : Int) : Int := a - truncatedDiv a b * b

/-- The result over unbounded integers. -/
def exact : Operator → Int → Int → Int
  | .add, a, b => a + b
  | .sub, a, b => a - b
  | .mul, a, b => a * b
  | .div, a, b => truncatedDiv a b
  | .mod, a, b => truncatedMod a b

end Operator

inductive CalcError where
  /-- The token count is even. -/
  | invalidInput
  | invalidNumber (token : String)
  | numberOverflow (token : String)
  | invalidOperator (token : String)
  | divisionByZero (dividend : Int) (op : Operator)
  | outOfBounds (left right : Int) (op : Operator)
  deriving DecidableEq, Repr

namespace CalcError

def kind : CalcError → String
  | .invalidInput => "InvalidInput"
  | .invalidNumber _ => "InvalidNumber"
  | .numberOverflow _ => "NumberOverflow"
  | .invalidOperator _ => "InvalidOperator"
  | .divisionByZero .. => "DivisionByZero"
  | .outOfBounds .. => "OutOfBounds"

def message : CalcError → String
  | .invalidInput =>
    "Incomplete expression: Expected input of the form [number] [operator number ...]"
  | .invalidNumber token => "Invalid number: " ++ token
  | .numberOverflow token => "Out of bounds integer: " ++ token
  | .invalidOperator token => "Unknown operator: " ++ token
  | .divisionByZero dividend op =>
    "Division by zero: " ++ toString dividend ++ " " ++ op.symbol ++ " 0"
  | .outOfBounds left right op =>
    "Integer overflow: " ++ toString left ++ " " ++ op.symbol ++ " " ++ toString right
      ++ " is outside [-9223372036854775808, 9223372036854775807]"

/-- What the error carries, as named texts. -/
def context : CalcError → List (String × String)
  | .invalidInput => []
  | .invalidNumber token | .numberOverflow token | .invalidOperator token => [("token", token)]
  | .divisionByZero dividend op => [("dividend", toString dividend), ("operator", op.symbol)]
  | .outOfBounds left right op =>
    [("left", toString left), ("right", toString right), ("operator", op.symbol)]

end CalcError

namespace Operator

def apply (op : Operator) (a b : Int) : Except CalcError Int :=
  if op.divides ∧ b = 0 then .error (.divisionByZero a op)
  else if InRange (op.exact a b) then .ok (op.exact a b)
  else .error (.outOfBounds a b op)

theorem inRange_of_apply {op : Operator} {a b v : Int} (h : op.apply a b = .ok v) : InRange v := by
  unfold apply at h
  split at h
  · simp at h
  · split at h
    · simp_all
    · simp at h

end Operator

end Calculator
