import Calculator.Token
import Calculator.Failure

/-!
# Postfix sequences and parse trees

A sequence of tokens in postfix order is well formed if every operator finds two values and exactly one is left at
the end. The check counts values only, and the machine that evaluates keeps them on a stack. A parse tree has two
traversals and is evaluated from the left subtree to the right one.
-/

namespace Calculator

/-- How a sequence of tokens fails to be postfix. -/
inductive Malformed where
  | empty
  | missingOperand (op : Operator)
  | leftover (depth : Nat)
  deriving DecidableEq, Repr

def Malformed.problem : Malformed → Problem
  | .empty => .tooShort
  | .missingOperand op => .rule ("Operator " ++ op.symbol ++ " is missing an operand")
  | .leftover depth =>
    .rule ("Postfix sequence leaves " ++ toString depth ++ " values instead of 1")

/-- The count of values after one more token. -/
def depthStep (depth : Nat) : Token → Except Malformed Nat
  | .literal _ => .ok (depth + 1)
  | .operator op => if depth < 2 then .error (.missingOperand op) else .ok (depth - 1)

def checkPostfix (tokens : List Token) : Except Malformed Unit :=
  if tokens = [] then .error .empty
  else match tokens.foldlM depthStep 0 with
    | .ok depth => if depth = 1 then .ok () else .error (.leftover depth)
    | .error m => .error m

@[ext] structure Rpn where
  tokens : List Token
  wellFormed : checkPostfix tokens = .ok ()

namespace Rpn

def ofTokens (tokens : List Token) : Except Malformed Rpn :=
  match h : checkPostfix tokens with
  | .ok () => .ok ⟨tokens, h⟩
  | .error m => .error m

theorem ofTokens_eq_ok_iff (tokens : List Token) (p : Rpn) :
    ofTokens tokens = .ok p ↔ p.tokens = tokens := by
  constructor
  · intro h
    unfold ofTokens at h
    split at h
    · cases h; rfl
    · simp at h
  · rintro rfl
    unfold ofTokens
    split
    · rfl
    · next m h => simp [p.wellFormed] at h

/-- The same with the problem placed at the field it concerns. -/
def build (tokens : List Token) : Checked Rpn :=
  match ofTokens tokens with
  | .ok p => .ok p
  | .error m => Checked.refuse "tokens" m.problem

def text (p : Rpn) : String := Token.print p.tokens

/-- One step of the stack machine, with the top of the stack first. The right operand is on top. -/
def evalStep (stack : List Int) : Token → Except Failure (List Int)
  | .literal w => .ok (w.value :: stack)
  | .operator op =>
    match stack with
    | b :: a :: below => (Failure.ofError (op.apply a b)).map (· :: below)
    | _ => .error .emptyStack

def evaluate (p : Rpn) : Except Failure Int :=
  match p.tokens.foldlM evalStep [] with
  | .ok (v :: _) => .ok v
  | .ok [] => .error .emptyStack
  | .error f => .error f

end Rpn

inductive Tree where
  | leaf (w : Word)
  | node (left : Tree) (op : Operator) (right : Tree)
  deriving DecidableEq, Repr

namespace Tree

/-- Left subtree, right subtree, node. -/
def postorder : Tree → List Token
  | .leaf w => [.literal w]
  | .node l op r => l.postorder ++ r.postorder ++ [.operator op]

/-- Left subtree, node, right subtree. -/
def inorder : Tree → List Token
  | .leaf w => [.literal w]
  | .node l op r => l.inorder ++ .operator op :: r.inorder

def eval : Tree → Except CalcError Int
  | .leaf w => .ok w.value
  | .node l op r => do
    let a ← l.eval
    let b ← r.eval
    op.apply a b

/-- The operator at the root. -/
def root? : Tree → Option Operator
  | .leaf _ => none
  | .node _ op _ => some op

/-- No left child binds looser than its parent, and no right child binds as loosely or looser. -/
def Grouped : Tree → Prop
  | .leaf _ => True
  | .node l op r =>
    (∀ o ∈ l.root?, op.precedence ≤ o.precedence) ∧
      (∀ o ∈ r.root?, op.precedence < o.precedence) ∧ l.Grouped ∧ r.Grouped

end Tree

end Calculator
