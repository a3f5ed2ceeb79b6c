import Calculator.Value
import Calculator.Infix

/-!
# Requests, calculations and outcomes

A request holds the tokens of one expression, as a caller hands them in. A calculation checks them, puts them into
postfix order and evaluates. It comes alone and with the records that its stages leave. A run wraps it into an outcome,
which is either a result or an error with its kind, never both and never neither.
-/

namespace Calculator

structure Request where
  tokens : List String
  deriving DecidableEq, Repr

namespace Request

/-- The tokens joined by spaces, for display. -/
def expression (r : Request) : String := " ".intercalate r.tokens

def ofFields (fields : Fields) : Checked Request :=
  (fields.requiredTexts "tokens").map Request.mk

end Request

inductive Outcome where
  | value (expression : String) (result : Word) (kind : Option String)
  | failure (expression : String) (error kind : String)
  deriving DecidableEq, Repr

namespace Outcome

def expression : Outcome → String
  | .value expression _ _ => expression
  | .failure expression _ _ => expression

def result? : Outcome → Option Word
  | .value _ result _ => some result
  | .failure .. => none

def error? : Outcome → Option String
  | .value .. => none
  | .failure _ error _ => some error

def kind? : Outcome → Option String
  | .value _ _ kind => kind
  | .failure _ _ kind => some kind

def succeeded (o : Outcome) : Bool := o.error?.isNone

/-- The rules of the outcome as a whole, for parts that are good in themselves. -/
def ofParts (expression : String) (result : Option Word) (error kind : Option String) :
    Checked Outcome :=
  match result, error, kind with
  | some w, none, kind => .ok (.value expression w kind)
  | none, some message, some kind => .ok (.failure expression message kind)
  | none, some _, none => Checked.refuseModel "An error result must carry its error kind"
  | none, none, _ | some _, some _, _ =>
    Checked.refuseModel "Exactly one of result and error must be set"

def build (expression : String) (result : Option Int) (error kind : Option String) :
    Checked Outcome :=
  match result with
  | none => ofParts expression none error kind
  | some v =>
    match Checked.atField "result" (Word.ofInt v) with
    | .ok w => ofParts expression (some w) error kind
    | .error errors => .error errors

/-- The rules of the outcome as a whole are looked at only if every field is good. -/
def ofFields (fields : Fields) : Checked Outcome :=
  let expression := fields.required "expression" Value.asText
  let result := fields.optional "result" Value.asWord
  let error := fields.optional "error" Value.asText
  let kind := fields.optional "error_kind" Value.asText
  match Checked.both expression (Checked.both result (Checked.both error kind)) with
  | .ok (expression, result, error, kind) => ofParts expression result error kind
  | .error errors => .error errors

end Outcome

def calculate (tokens : List String) : Except Failure Int := do
  let e ← Failure.ofError (Infix.validate tokens)
  let p ← e.toRpn
  p.evaluate

namespace Logged

def validate (tokens : List String) : Logged Infix :=
  stage .debug (fun e => "🔎✅ Validated " ++ toString tokens.length ++ " tokens: " ++ e.text)
    (Failure.ofError (Infix.validate tokens))

def toRpn (e : Infix) : Logged Rpn :=
  stage .debug (fun p => "🔀 " ++ e.text ++ " -> " ++ p.text) e.toRpn

def evaluate (p : Rpn) : Logged Int :=
  stage .debug (fun v => "🧮 " ++ p.text ++ " = " ++ toString v) p.evaluate

def calculate (tokens : List String) : Logged Int := do
  let e ← validate tokens
  let p ← toRpn e
  evaluate p

@[simp] theorem result_calculate (tokens : List String) :
    (calculate tokens).result = Calculator.calculate tokens := by
  simp [calculate, Calculator.calculate, validate, toRpn, evaluate]

end Logged

namespace Request

def started (r : Request) : Record := ⟨.info, "🧮🏁 Calculation started: " ++ r.expression⟩

def finished (r : Request) (v : Int) : Record :=
  ⟨.info, "🧮✅ Calculation finished: " ++ r.expression ++ " = " ++ toString v⟩

def failed (r : Request) (e : CalcError) : Record :=
  ⟨.error, "🧮❌ Calculation failed (" ++ e.kind ++ "): " ++ e.message ++ "\nExpression: "
    ++ quote r.expression⟩

/-- Errors of the calculation become outcomes; any other failure stays one. -/
def run (r : Request) : Logged Outcome :=
  let c := Logged.calculate r.tokens
  match c.result with
  | .ok v =>
    ⟨r.started :: c.records ++ [r.finished v],
      Failure.ofChecked (Outcome.build r.expression (some v) none none)⟩
  | .error (.error e) =>
    ⟨r.started :: c.records ++ [r.failed e],
      Failure.ofChecked (Outcome.build r.expression none (some e.message) (some e.kind))⟩
  | .error f => ⟨r.started :: c.records, .error f⟩

end Request

end Calculator
