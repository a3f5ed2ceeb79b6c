import Calculator.Failure

/-!
# Logging levels and the shared logger

Names of levels are read in any mix of cases, and two pairs of names share a number. The first configuration of the
logger installs a handler and keeps the records from other handlers; later ones only change the level.
-/

namespace Calculator

inductive LevelName where
  | critical | fatal | error | warning | warn | info | debug | notset
  deriving DecidableEq, Repr

namespace LevelName

def all : List LevelName :=
  [.critical, .fatal, .error, .warning, .warn, .info, .debug, .notset]

def text : LevelName → String
  | .critical => "CRITICAL"
  | .fatal => "FATAL"
  | .error => "ERROR"
  | .warning => "WARNING"
  | .warn => "WARN"
  | .info => "INFO"
  | .debug => "DEBUG"
  | .notset => "NOTSET"

def number : LevelName → Nat
  | .critical | .fatal => 50
  | .error => 40
  | .warning | .warn => 30
  | .info => 20
  | .debug => 10
  | .notset => 0

def ofText? (s : String) : Option LevelName := all.find? (·.text = s)

/-- Reads a name in any mix of cases. -/
def read? (s : String) : Option LevelName := ofText? (upperCase s)

@[simp] theorem ofText?_text (l : LevelName) : ofText? l.text = some l := by
  cases l <;> decide

@[simp] theorem read?_text (l : LevelName) : read? l.text = some l := by
  cases l <;> decide

end LevelName

structure Logger where
  level : Nat
  handlers : Nat
  propagate : Bool
  deriving DecidableEq, Repr

namespace Logger

def initial : Logger := ⟨0, 0, true⟩

/-- The level at which records are written where none is set. -/
def defaultThreshold : Nat := 30

def threshold (l : Logger) : Nat := if l.level = 0 then defaultThreshold else l.level

/-- The name of the level that a configuration without one sets. -/
def defaultLevel : String := LevelName.warning.text

def install (l : Logger) : Logger :=
  if l.handlers = 0 then { l with handlers := 1, propagate := false } else l

theorem install_of_handlers {l : Logger} (h : l.handlers ≠ 0) : l.install = l := by
  simp [install, h]

@[simp] theorem install_handlers_ne_zero (l : Logger) : l.install.handlers ≠ 0 := by
  by_cases h : l.handlers = 0 <;> simp [install, h]

@[simp] theorem install_level (l : Logger) : l.install.level = l.level := by
  by_cases h : l.handlers = 0 <;> simp [install, h]

def setLevel (l : Logger) (name : LevelName) : Logger := { l with level := name.number }

/-- The handler is installed before the name of the level is looked at. -/
def configure (l : Logger) (name : String) : Logger × Except Failure Unit :=
  match LevelName.read? name with
  | some level => (l.install.setLevel level, .ok ())
  | none => (l.install, .error (.unknownLevel (upperCase name)))

/-- Without a handler, a last resort writes what is at the default threshold or above. -/
def writes (l : Logger) (r : Record) : Bool :=
  l.threshold ≤ r.severity.number && (l.handlers ≠ 0 || defaultThreshold ≤ r.severity.number)

/-- One written record; `stamp` is the time of writing. The last resort writes the message alone. -/
def render (stamp : String) (l : Logger) (r : Record) : String :=
  if l.handlers = 0 then r.message ++ "\n"
  else stamp ++ " - postfix_calc - " ++ r.severity.text ++ " - " ++ r.message ++ "\n"

theorem render_of_handler {l : Logger} (h : l.handlers ≠ 0) (stamp : String) (r : Record) :
    l.render stamp r = stamp ++ " - postfix_calc - " ++ r.severity.text ++ " - " ++ r.message ++ "\n" :=
  if_neg h

theorem render_of_no_handler {l : Logger} (h : l.handlers = 0) (stamp : String) (r : Record) :
    l.render stamp r = r.message ++ "\n" :=
  if_pos h

def output (stamp : String) (l : Logger) (records : List Record) : String :=
  String.join ((records.filter l.writes).map (l.render stamp))

end Logger

end Calculator
