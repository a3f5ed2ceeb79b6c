import Calculator.Token
import Calculator.Failure

/-!
# Loosely typed values

A text field takes texts only. An integer field also takes truth values, floating-point numbers without a fraction,
and texts that spell an integer. A text that is not plain is tidied first: blanks, a plus, leading zeros, a fraction
of zeros and underscores between digits are taken out of it. Floating-point numbers have 53 significant bits, and all
steps to the one nearest to a decimal number are exact integer arithmetic.
-/

namespace Calculator

/-- The power of two with a given exponent. -/
def powTwo (n : Nat) : Nat := Nat.pow 2 n

inductive Binary64 where
  /-- The number `significand * 2 ^ exponent`. -/
  | finite (significand exponent : Int)
  | infinite (negative : Bool)
  | notANumber
  deriving DecidableEq, Repr

namespace Binary64

def precision : Nat := 53

/-- The exponent of the last bit of the numbers around zero. -/
def minExponent : Int := -1074

/-- The exponent of the last bit of the largest numbers. -/
def maxExponent : Int := 971

/-- The integer nearest to `num / den`; of two that are equally near the even one. -/
def roundDiv (num den : Nat) : Nat :=
  let quotient := num / den
  let remainder := num % den
  if 2 * remainder < den ∨ 2 * remainder = den ∧ quotient % 2 = 0 then quotient else quotient + 1

/-- The fraction `num / den / 2 ^ exponent`. -/
def scaleDown (num den : Nat) : Int → Nat × Nat
  | .ofNat e => (num, den * powTwo e)
  | .negSucc e => (num * powTwo (e + 1), den)

/-- The exponent of the last bit that is kept of `num / den`. The guess leaves 53 bits in front of
the point, or 54 and then the next exponent is taken. -/
def lastExponent (num den : Nat) : Int :=
  let guess : Int := num.log2 - den.log2 - precision
  match scaleDown num den guess with
  | (n, d) => max minExponent (if n < d * powTwo precision then guess else guess + 1)

def ofFraction (negative : Bool) (num den : Nat) : Binary64 :=
  let e := lastExponent num den
  match scaleDown num den e with
  | (n, d) =>
    let m := roundDiv n d
    if e < maxExponent ∨ e = maxExponent ∧ m < powTwo precision then finite (applySign negative m) e
    else infinite negative

/-- The number nearest to a decimal number. From `10 ^ 309` on it is infinite, and below `10 ^ -324`
it is zero. -/
def ofDecimal (d : Decimal) : Binary64 :=
  if d.coefficient = 0 ∨ d.place < -323 then finite 0 0
  else if 309 < d.place then infinite d.negative
  else match d.exponent with
    | .ofNat e => ofFraction d.negative (d.coefficient * powTen e) 1
    | .negSucc e => ofFraction d.negative d.coefficient (powTen (e + 1))

end Binary64

namespace LooseInteger

/-- The largest count of digits that is read. -/
def maxDigits : Nat := 4300

/-- Splits off one leading minus. -/
def splitMinus : List Char → Bool × List Char
  | '-' :: cs => (true, cs)
  | cs => (false, cs)

/-- A digit other than zero. -/
def isLeadingDigit (c : Char) : Bool := c.isDigit && c != '0'

/-- Digits that do not start with a zero, or a zero alone. -/
def isPlain : List Char → Bool
  | [] => false
  | ['0'] => true
  | c :: cs => isLeadingDigit c && cs.all Char.isDigit

/-- Reads plain digits after an optional minus. -/
def readPlain? (cs : List Char) : Option Int :=
  match splitMinus cs with
  | (negative, digits) =>
    if isPlain digits ∧ digits.length ≤ maxDigits then
      some (applySign negative (Nat.ofDigitChars 10 digits 0))
    else none

/-- Whether a text starts with more digits than are read, whatever comes after them. -/
def isOversized (cs : List Char) : Bool :=
  match splitMinus cs with
  | (_, digits) =>
    (digits.head?.any isLeadingDigit) && maxDigits < (digits.takeWhile Char.isDigit).length

/-- A plus in front of a minus is refused. -/
def dropPlus? : List Char → Option (List Char)
  | '+' :: '-' :: _ => none
  | '+' :: cs => some cs
  | cs => some cs

/-- Drops zeros and underscores up to the first other digit or a minus. The character before a point
stays, and so does the last one of the text. -/
def dropZerosAfter (last : Char) : List Char → Option (List Char)
  | [] => some [last]
  | c :: cs =>
    if c = '0' ∨ c = '_' then dropZerosAfter c cs
    else if c = '.' then some (last :: c :: cs)
    else if c.isDigit ∨ c = '-' then some (c :: cs)
    else none

/-- Drops leading zeros from a text that starts with a digit. -/
def dropZeros? : List Char → Option (List Char)
  | [] => none
  | c :: cs =>
    if c = '0' then dropZerosAfter c cs
    else if c.isDigit then some (c :: cs)
    else none

/-- Drops a point with one or more zeros and nothing else after it. -/
def dropZeroFraction (cs : List Char) : List Char :=
  match cs.dropWhile (· ≠ '.') with
  | _ :: zeros =>
    if zeros ≠ [] ∧ zeros.all (· = '0') then cs.takeWhile (· ≠ '.') else cs
  | [] => cs

/-- Drops underscores, if each stands alone between two other characters. -/
def dropUnderscores (cs : List Char) : List Char :=
  let groups := cs.splitOn '_'
  if [] ∈ groups then cs else groups.flatten

def tidy? (cs : List Char) : Option (List Char) :=
  match dropPlus? (trimBlanks cs) with
  | none => none
  | some cs =>
    match splitMinus cs with
    | (negative, cs) => (dropZeros? cs).map fun cs =>
      let digits := dropUnderscores (dropZeroFraction cs)
      if negative then '-' :: digits else digits

/-- A text with too many digits is reported as such only where it needs no tidying. -/
def read (s : String) : Except Problem Int :=
  match readPlain? s.toList with
  | some n => .ok n
  | none =>
    if isOversized s.toList then .error .oversized
    else match (tidy? s.toList).bind readPlain? with
      | some n => .ok n
      | none => .error .unreadableInteger

end LooseInteger

inductive Value where
  | null
  | bool (b : Bool)
  | integer (n : Int)
  | float (x : Binary64)
  | text (s : String)
  | list (items : List Value)
  | object (fields : List (String × Value))
  deriving Inhabited, Repr

abbrev Fields := List (String × Value)

namespace Binary64

/-- Integers from floating-point numbers have at most 63 bits. -/
def bounded (n : Int) : Except Problem Int :=
  if n.natAbs < 9223372036854775808 then .ok n else .error .oversized

def toInt : Binary64 → Except Problem Int
  | .finite significand (.ofNat e) => bounded (significand * powTwo e)
  | .finite significand (.negSucc e) =>
    if significand % powTwo (e + 1) = 0 then bounded (significand / powTwo (e + 1))
    else .error .fractional
  | .infinite _ | .notANumber => .error .notFinite

end Binary64

/-- Tells on which side of the range an integer lies that is no word. -/
def Word.ofInt (v : Int) : Except Problem Word :=
  if h : InRange v then .ok ⟨v, h⟩
  else if v < minWord then .error .belowMinimum
  else .error .aboveMaximum

@[simp] theorem Word.ofInt_value (w : Word) : Word.ofInt w.value = .ok w := by
  simp [Word.ofInt, w.inRange]

namespace Value

def asText : Value → Except Problem String
  | .text s => .ok s
  | _ => .error .notText

def asInt : Value → Except Problem Int
  | .bool b => .ok (if b then 1 else 0)
  | .integer n => .ok n
  | .float x => x.toInt
  | .text s => LooseInteger.read s
  | .null | .list _ | .object _ => .error .notInteger

def asWord (v : Value) : Except Problem Word :=
  match v.asInt with
  | .ok n => Word.ofInt n
  | .error problem => .error problem

/-- Every item is a text; otherwise each that is not is reported at its index. -/
def textsFrom (name : String) (i : Nat) : List Value → Checked (List String)
  | [] => .ok []
  | v :: rest =>
    match Checked.both (itemText name i v) (textsFrom name (i + 1) rest) with
    | .ok (s, texts) => .ok (s :: texts)
    | .error errors => .error errors
where
  itemText (name : String) (i : Nat) (v : Value) : Checked String :=
    match v.asText with
    | .ok s => .ok s
    | .error problem => .error [⟨[.field name, .index i], problem⟩]

end Value

namespace Fields

/-- A field that has to be given. -/
def required (fields : Fields) (name : String) (read : Value → Except Problem α) : Checked α :=
  match fields.lookup name with
  | some v => Checked.atField name (read v)
  | none => Checked.refuse name .missing

/-- A field that may be absent or null. -/
def optional (fields : Fields) (name : String) (read : Value → Except Problem α) :
    Checked (Option α) :=
  match fields.lookup name with
  | none | some .null => .ok none
  | some v => (Checked.atField name (read v)).map some

/-- A field that has to be a list of texts. -/
def requiredTexts (fields : Fields) (name : String) : Checked (List String) :=
  match fields.lookup name with
  | some (.list items) => Value.textsFrom name 0 items
  | some _ => Checked.refuse name .notList
  | none => Checked.refuse name .missing

end Fields

end Calculator
