import Calculator.Calculation
import Calculator.Settings

/-!
# The command and sessions of operations

The command takes an expression as arguments and gives one line on standard output and an exit status. Settings are
read first, and a problem there ends it before anything else happens. A session performs operations one after another,
which share the logger and nothing else.
-/

namespace Calculator

structure CommandResult where
  status : Int
  stdout : String
  deriving DecidableEq, Repr

namespace Command

def exiting (code : ExitCode) : Record := ⟨.debug, "Exiting with status " ++ toString code.value⟩

/-- What the command answers to the outcome of its run. -/
def report (code : ExitCode) : Outcome → Logged CommandResult
  | .value _ result _ => pure ⟨0, result.text ++ "\n"⟩
  | .failure _ error _ => ⟨[exiting code], .ok ⟨code.value, "Error! " ++ error ++ "\n"⟩⟩

/-- The logger afterwards, and the answer with the records left. -/
def execute (l : Logger) (s : Sources) (arguments : List String) :
    Logger × Logged CommandResult :=
  match Settings.load s with
  | .error errors => (l, .quiet (.error (.rejected errors)))
  | .ok settings =>
    match l.configure settings.logLevel.text with
    | (l, .error f) => (l, .quiet (.error f))
    | (l, .ok ()) => (l, Request.run ⟨arguments⟩ >>= report settings.errorExitCode)

end Command

/-- A token that is not built yet. -/
inductive RawToken where
  | literal (v : Int)
  | operator (symbol : String)
  deriving DecidableEq, Repr

inductive Operation where
  | classify (token : String)
  | operator (symbol : String)
  | literal (v : Int)
  | validate (tokens : List String)
  | convert (tokens : List String)
  | evaluate (tokens : List RawToken)
  | apply (symbol : String) (a b : Int)
  | calculate (tokens : List String)
  | run (tokens : List String)
  | request (fields : Fields)
  | outcome (fields : Fields)
  | settings (sources : Sources)
  | command (sources : Sources) (arguments : List String)
  | configure (level : Option String)

inductive Answer where
  | classified (token : Option Token) (isOperator : Bool)
  | operator (op : Operator)
  | literal (w : Word)
  | expression (e : Infix)
  | rpn (p : Rpn)
  | evaluated (p : Rpn) (result : Except Failure Int)
  | number (v : Int)
  | outcome (o : Outcome)
  | request (r : Request)
  | settings (s : Settings)
  | exit (r : CommandResult)
  | logger (l : Logger)

def findOperator (symbol : String) : Except Failure Operator :=
  match Operator.ofSymbol? symbol with
  | some op => .ok op
  | none => .error (.unknownSymbol symbol)

def makeLiteral (v : Int) : Except Failure Word :=
  Failure.ofChecked (Checked.atField "value" (Word.ofInt v))

def RawToken.build : RawToken → Except Failure Token
  | .literal v => (makeLiteral v).map .literal
  | .operator symbol => (findOperator symbol).map .operator

namespace Operation

/-- The logger afterwards, and the answer with the records left. A sequence that is well formed but
fails in evaluation is answered all the same. -/
def perform (l : Logger) : Operation → Logger × Logged Answer
  | .classify token => (l, pure (.classified (Calculator.classify token) (isOperator token)))
  | .operator symbol => (l, .quiet ((findOperator symbol).map .operator))
  | .literal v => (l, .quiet ((makeLiteral v).map .literal))
  | .validate tokens => (l, .expression <$> Logged.validate tokens)
  | .convert tokens => (l, do
    let e ← Logged.validate tokens
    .rpn <$> Logged.toRpn e)
  | .evaluate tokens => (l, do
    let tokens ← Logged.quiet (tokens.mapM RawToken.build)
    let p ← Logged.quiet (Failure.ofChecked (Rpn.build tokens))
    let x := Logged.evaluate p
    ⟨x.records, .ok (.evaluated p x.result)⟩)
  | .apply symbol a b => (l, .quiet do
    let op ← findOperator symbol
    .number <$> Failure.ofError (op.apply a b))
  | .calculate tokens => (l, .number <$> Logged.calculate tokens)
  | .run tokens => (l, .outcome <$> Request.run ⟨tokens⟩)
  | .request fields => (l, .quiet (Failure.ofChecked ((Request.ofFields fields).map .request)))
  | .outcome fields => (l, .quiet (Failure.ofChecked ((Outcome.ofFields fields).map .outcome)))
  | .settings sources => (l, .quiet (Failure.ofChecked ((Settings.load sources).map .settings)))
  | .command sources arguments =>
    match Command.execute l sources arguments with
    | (l, x) => (l, .exit <$> x)
  | .configure level =>
    match l.configure (level.getD Logger.defaultLevel) with
    | (l, x) => (l, .quiet (x.map fun _ => .logger l))

theorem perform_command (l : Logger) (s : Sources) (arguments : List String) :
    (command s arguments).perform l =
      ((Command.execute l s arguments).1, .exit <$> (Command.execute l s arguments).2) := rfl

end Operation

/-- What one step of a session shows. -/
structure Step where
  answer : Except Failure Answer
  logger : Logger
  stderr : String

namespace Session

def step (stamp : String) (l : Logger) (op : Operation) : Step :=
  match op.perform l with
  | (l, x) => ⟨x.result, l, l.output stamp x.records⟩

@[simp] theorem answer_step (stamp : String) (l : Logger) (op : Operation) :
    (step stamp l op).answer = (op.perform l).2.result := rfl
@[simp] theorem logger_step (stamp : String) (l : Logger) (op : Operation) :
    (step stamp l op).logger = (op.perform l).1 := rfl

def run (stamp : String) (l : Logger) : List Operation → List Step
  | [] => []
  | op :: ops =>
    let s := step stamp l op
    s :: run stamp s.logger ops

end Session

end Calculator
