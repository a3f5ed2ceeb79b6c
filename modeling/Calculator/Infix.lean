import Calculator.Rpn

/-!
# Infix expressions and their conversion

A checked expression is a first operand with the pairs of operator and operand after it. The check asks for an odd
count first, then looks at all operands from the left, and then at all operators. The shunting yard puts an expression
into postfix order: literals pass through, and an operator waits on a stack until one that binds no tighter arrives.
The grammar reads the same expression as a sum of terms. Both of its chains group to the left, which gives the parse
tree and an evaluation without a stack.
-/

namespace Calculator

structure Infix where
  /-- The tokens as they were supplied. -/
  source : List String
  first : Word
  rest : List (Operator × Word)
  deriving DecidableEq, Repr

namespace Infix

/-- Operands and operators in turn. -/
def alternate (first : Word) (rest : List (Operator × Word)) : List Token :=
  .literal first :: rest.flatMap fun (op, w) => [.operator op, .literal w]

def tokens (e : Infix) : List Token := alternate e.first e.rest

def text (e : Infix) : String := " ".intercalate e.source

/-- Cuts a list of odd length into its first item and the pairs after it. -/
def pairUp : List α → Option (α × List (α × α))
  | [] => none
  | [a] => some (a, [])
  | a :: b :: rest => (pairUp rest).map fun (c, pairs) => (a, (b, c) :: pairs)

/-- Only lists of even length cannot be cut. -/
theorem pairUp_eq_none_iff : ∀ xs : List α, pairUp xs = none ↔ xs.length % 2 = 0
  | [] => by simp [pairUp]
  | [_] => by simp [pairUp]
  | _ :: _ :: rest => by
    have ih := pairUp_eq_none_iff rest
    simp only [pairUp, Option.map_eq_none_iff, ih, List.length_cons]
    omega

def checkOperator (token : String) : Except CalcError Operator :=
  match Operator.ofSymbol? token with
  | some op => .ok op
  | none => .error (.invalidOperator token)

def validate (source : List String) : Except CalcError Infix :=
  match pairUp source with
  | none => .error .invalidInput
  | some (head, pairs) => do
    let first ← checkOperand head
    let operands ← pairs.mapM fun (_, token) => checkOperand token
    let operators ← pairs.mapM fun (token, _) => checkOperator token
    return ⟨source, first, operators.zip operands⟩

end Infix

structure Yard where
  /-- What has left the yard, newest first. -/
  emitted : List Token
  /-- The waiting operators, top first. -/
  stack : List Operator
  deriving DecidableEq, Repr

namespace Yard

def empty : Yard := ⟨[], []⟩

def feed (y : Yard) : Token → Yard
  | .literal w => ⟨.literal w :: y.emitted, y.stack⟩
  | .operator op =>
    let released := y.stack.takeWhile (op.precedence ≤ ·.precedence)
    let kept := y.stack.dropWhile (op.precedence ≤ ·.precedence)
    ⟨(released.map .operator).reverse ++ y.emitted, op :: kept⟩

def finish (y : Yard) : List Token := y.emitted.reverse ++ y.stack.map .operator

def convert (tokens : List Token) : List Token := (tokens.foldl feed empty).finish

end Yard

def Infix.toRpn (e : Infix) : Except Failure Rpn :=
  Failure.ofChecked (Rpn.build (Yard.convert e.tokens))

def Operator.isAdditive : Operator → Bool
  | .add | .sub => true
  | .mul | .div | .mod => false

structure Term where
  first : Word
  rest : List (Operator × Word)
  deriving DecidableEq, Repr

structure Terms where
  first : Term
  rest : List (Operator × Term)
  deriving DecidableEq, Repr

namespace Term

def tree (t : Term) : Tree :=
  t.rest.foldl (fun left (op, w) => .node left op (.leaf w)) (.leaf t.first)

def eval (t : Term) : Except CalcError Int :=
  t.rest.foldlM (fun a (op, w) => op.apply a w.value) t.first.value

end Term

namespace Terms

/-- Cuts a chain of literals at its additive operators. -/
def cut (first : Word) : List (Operator × Word) → Terms
  | [] => ⟨⟨first, []⟩, []⟩
  | (op, w) :: rest =>
    let s := cut w rest
    if op.isAdditive then ⟨⟨first, []⟩, (op, s.first) :: s.rest⟩
    else ⟨⟨first, (op, s.first.first) :: s.first.rest⟩, s.rest⟩

def tree (s : Terms) : Tree :=
  s.rest.foldl (fun left (op, t) => .node left op t.tree) s.first.tree

/-- Each term is evaluated just before it is combined with the terms to its left. -/
def eval (s : Terms) : Except CalcError Int := do
  let a ← s.first.eval
  s.rest.foldlM (fun a (op, t) => do op.apply a (← t.eval)) a

end Terms

def Infix.terms (e : Infix) : Terms := Terms.cut e.first e.rest

def Infix.tree (e : Infix) : Tree := e.terms.tree

end Calculator
