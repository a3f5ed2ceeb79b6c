import Calculator.Arithmetic
import Calculator.Text

/-!
# Tokens and operands

A sign that stands directly before digits belongs to the literal; alone it is an operator. A literal outside the
range of a word stays unclassified. In operand position a token has to be a real numeral, to lie in the range of a
word and to be written as an integer, and the first of these rules that fails names the error. Numerals are decimal
numbers with limits on coefficient and exponent. They are compared by the place of the leading digit first, so that a
large power of ten is never written out.
-/

namespace Calculator

inductive Token where
  | literal (w : Word)
  | operator (op : Operator)
  deriving DecidableEq, Repr

namespace Token

def text : Token → String
  | .literal w => w.text
  | .operator op => op.symbol

/-- Tokens separated by single spaces. -/
def print (tokens : List Token) : String := " ".intercalate (tokens.map text)

end Token

/-- No word has more significant digits than this. -/
def maxDigits : Nat := 19

/-- The word that a signed run of digits denotes. The count of significant digits is looked at first,
so that no long run is ever converted. -/
def SignedDigits.word? (n : SignedDigits) : Option Word :=
  if maxDigits < n.significant.length then none
  else Word.ofInt? (applySign n.negative (Nat.ofDigitChars 10 n.significant 0))

def isOperator (s : String) : Bool := (Operator.ofSymbol? s).isSome

theorem isOperator_iff (s : String) : isOperator s = true ↔ ∃ op : Operator, s = op.symbol := by
  simp only [isOperator, Option.isSome_iff_exists, Operator.ofSymbol?_eq_some_iff]

def classify (s : String) : Option Token :=
  match SignedDigits.parse? s.toList with
  | some n => n.word?.map .literal
  | none => (Operator.ofSymbol? s).map .operator

structure Numeral where
  negative : Bool
  whole : List Char
  fraction : List Char
  exponent : SignedDigits
  deriving DecidableEq, Repr

namespace Numeral

/-- The exponent of a numeral that is written without one. -/
def noExponent : SignedDigits := ⟨false, ['0']⟩

def parseExponent? : List Char → Option SignedDigits
  | [] => some noExponent
  | c :: cs => if c = 'e' ∨ c = 'E' then SignedDigits.parse? cs else none

/-- Fraction digits after a point, and what follows them. -/
def splitFraction : List Char → List Char × List Char
  | '.' :: cs => (cs.takeWhile Char.isDigit, cs.dropWhile Char.isDigit)
  | cs => ([], cs)

def parse? (cs : List Char) : Option Numeral :=
  match splitSign cs with
  | (negative, cs) =>
    match splitFraction (cs.dropWhile Char.isDigit) with
    | (fraction, rest) =>
      let whole := cs.takeWhile Char.isDigit
      if whole = [] ∧ fraction = [] then none
      else (parseExponent? rest).map fun e => ⟨negative, whole, fraction, e⟩

/-- The digits before the exponent. -/
def mantissa (n : Numeral) : List Char := n.whole ++ n.fraction

def isZero (n : Numeral) : Bool := n.mantissa.all (· = '0')

end Numeral

/-- The count of decimal digits; zero has one. -/
def digitCount (n : Nat) : Nat := (Nat.toDigits 10 n).length

structure Decimal where
  negative : Bool
  coefficient : Nat
  exponent : Int
  deriving DecidableEq, Repr

namespace Decimal

/-- The largest count of digits of a coefficient. -/
def maxPrecision : Nat := 999999999999999999

/-- The largest exponent of a leading digit; its negative is the smallest. -/
def maxExponent : Int := 999999999999999999

/-- The exponent of the last digit, where the leading exponent is smallest and the coefficient is
longest. -/
def minExponent : Int := -maxExponent - (maxPrecision - 1)

/-- A number that is not zero lies below `10 ^ place` and not below `10 ^ (place - 1)`. -/
def place (d : Decimal) : Int := digitCount d.coefficient + d.exponent

/-- Whether coefficient and exponents keep to the limits. -/
def Representable (d : Decimal) : Prop :=
  digitCount d.coefficient ≤ maxPrecision ∧ minExponent ≤ d.exponent ∧ d.place - 1 ≤ maxExponent

instance : DecidablePred Representable := fun _ => by
  unfold Representable
  infer_instance

/-- Whether `coefficient * 10 ^ exponent ≤ n`. -/
def magnitudeLe (d : Decimal) (n : Nat) : Bool :=
  if d.coefficient = 0 then true
  else if n = 0 then false
  else if d.place < digitCount n then true
  else if digitCount n < d.place then false
  else match d.exponent with
    | .ofNat e => d.coefficient * powTen e ≤ n
    | .negSucc e => d.coefficient ≤ n * powTen (e + 1)

/-- Whether the number lies in the range of a word. -/
def inRange (d : Decimal) : Bool :=
  d.magnitudeLe (if d.negative then minWord.natAbs else maxWord.natAbs)

end Decimal

/-- The exact number that a numeral denotes. -/
def Numeral.decimal (n : Numeral) : Decimal :=
  ⟨n.negative, Nat.ofDigitChars 10 n.mantissa 0, n.exponent.value - n.fraction.length⟩

/-- Exponents with more significant digits than this are never converted. -/
def maxExponentDigits : Nat := 18

/-- The verdict on a numeral whose exponent is beyond the limits: it is zero, or closer to zero than
any integer, or far outside the range of a word. -/
def Numeral.extremeError (n : Numeral) (token : String) : CalcError :=
  if n.exponent.negative ∨ n.isZero then .invalidNumber token else .numberOverflow token

def readReal (token : String) : Except CalcError Decimal :=
  match Numeral.parse? token.toList with
  | none => .error (.invalidNumber token)
  | some n =>
    if maxExponentDigits < n.exponent.significant.length then .error (n.extremeError token)
    else if n.decimal.Representable then .ok n.decimal
    else .error (n.extremeError token)

def checkOperand (token : String) : Except CalcError Word :=
  match readReal token with
  | .error e => .error e
  | .ok d =>
    if d.inRange then
      match classify token with
      | some (.literal w) => .ok w
      | _ => .error (.invalidNumber token)
    else .error (.numberOverflow token)

end Calculator
