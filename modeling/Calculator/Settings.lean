import Calculator.Logger
import Calculator.Value

/-!
# Settings and their sources

Each setting is taken from the first source that gives it: keyword fields, environment variables, the lines of a
settings file, the default. Only the taken value is checked.
-/

namespace Calculator

/-- An exit status that reports a failure also after truncation to its low eight bits. -/
structure ExitCode where
  value : Int
  positive : 1 ≤ value
  visible : value % 256 ≠ 0
  deriving DecidableEq, Repr

structure Settings where
  logLevel : LevelName
  errorExitCode : ExitCode
  deriving DecidableEq, Repr

/-- Where settings are looked for: keyword fields, environment variables and the lines of a settings
file. -/
structure Layers where
  fields : Fields
  environment : List (String × String)
  lines : List (String × String)

structure Sources where
  fields : Fields
  environment : List (String × String)
  /-- The text of the settings file, if there is one. -/
  file : Option String

namespace Sources

def namePrefix : String := "POSTFIX_CALC_"

/-- An entry `NAME=value`, cut at its first sign of equality. Without one it gives nothing. -/
def readAssignment? (entry : List Char) : Option (String × String) :=
  match entry.dropWhile (· ≠ '=') with
  | [] => none
  | _ :: value => some (String.ofList (entry.takeWhile (· ≠ '=')), String.ofList value)

def readEntries (isEnd : Char → Bool) (text : List Char) : List (String × String) :=
  (text.splitOnP isEnd).filterMap readAssignment?

/-- A byte order mark in front of a text is no part of it. -/
def dropMark : List Char → List Char
  | '\ufeff' :: cs => cs
  | cs => cs

def isLineEnd (c : Char) : Bool := c = '\n' || c = '\r'

/-- Blanks and separators around a name and around a value belong to neither. -/
def isMargin (c : Char) : Bool := isBlank c || isSeparator c

def trimMargins (s : String) : String := String.ofList (trimWhere isMargin s.toList)

def trimLine (line : String × String) : String × String := (trimMargins line.1, trimMargins line.2)

/-- The lines of a settings file in plain form. Quotes, comments, references to other names and the
like are taken as they stand. -/
def readLines (text : String) : List (String × String) :=
  (readEntries isLineEnd (dropMark text.toList)).map trimLine

def layers (s : Sources) : Layers := ⟨s.fields, s.environment, (s.file.map readLines).getD []⟩

/-- A settings file counts by its lines. -/
instance : Coe Sources Layers := ⟨layers⟩

/-- Letters of either case are the same in a name. -/
def sameName (name other : String) : Bool := name.toLower = other.toLower

def firstValue? (pairs : List (String × α)) (name : String) : Option α :=
  (pairs.find? fun pair => sameName name pair.1).map (·.2)

def lastValue? (pairs : List (String × α)) (name : String) : Option α :=
  firstValue? pairs.reverse name

/-- The value of each spelling of a name, in the order in which the spellings first occur. -/
def mergeSpellings (pairs : List (String × α)) : List (String × α) :=
  (pairs.map (·.1)).eraseDups.filterMap fun spelling =>
    (pairs.reverse.lookup spelling).map (spelling, ·)

theorem sameName_eq_decide (name other : String) :
    sameName name other = decide (name.toList.map Char.toLower = other.toList.map Char.toLower) := by
  have hlower : ∀ s : String, s.toLower.toList = s.toList.map Char.toLower := fun _ => String.toList_map
  simp only [sameName, ← String.toList_inj, hlower]

theorem lastValue?_singleton (pair : String × α) (name : String) :
    lastValue? [pair] name = if sameName name pair.1 then some pair.2 else none := by
  simp only [lastValue?, firstValue?, List.reverse_singleton, List.find?_cons, List.find?_nil]
  split <;> simp_all

end Sources

namespace Layers

open Sources

/-- The value of a setting, without its default. Where several keyword fields have its name, the
first one counts, of variables the last one. A line that repeats an earlier one, letter by letter in
the name, takes that one's place; then the last line counts. -/
def taken? (l : Layers) (name : String) : Option Value :=
  match firstValue? l.fields name with
  | some v => some v
  | none =>
    match lastValue? l.environment (namePrefix ++ name) with
    | some text => some (.text text)
    | none => (lastValue? (mergeSpellings l.lines) (namePrefix ++ name)).map .text

theorem taken?_of_environment {l : Layers} {name text : String} (hfields : firstValue? l.fields name = none)
    (h : lastValue? l.environment (namePrefix ++ name) = some text) : l.taken? name = some (.text text) := by
  simp only [taken?, hfields, h]

theorem taken?_of_lines {l : Layers} {name : String} (hfields : firstValue? l.fields name = none)
    (henvironment : lastValue? l.environment (namePrefix ++ name) = none) :
    l.taken? name = (lastValue? (mergeSpellings l.lines) (namePrefix ++ name)).map .text := by
  simp only [taken?, hfields, henvironment]

end Layers

def Sources.taken? (s : Sources) (name : String) : Option Value := s.layers.taken? name

namespace Settings

def levelField : String := "log_level"
def exitCodeField : String := "error_exit_code"

def defaultLevel : LevelName := .warning
def defaultExitCode : ExitCode := ⟨404, by decide, by decide⟩

def readLevel (v : Value) : Except Problem LevelName :=
  match v.asText with
  | .ok s =>
    match LevelName.read? s with
    | some level => .ok level
    | none => .error (.rule ("Unknown log level: " ++ s))
  | .error problem => .error problem

def readExitCode (v : Value) : Except Problem ExitCode :=
  match v.asInt with
  | .ok n =>
    if positive : 1 ≤ n then
      if visible : n % 256 ≠ 0 then .ok ⟨n, positive, visible⟩
      else .error (.rule ("Exit code " ++ toString n ++ " would be reported as 0"))
    else .error .belowMinimum
  | .error problem => .error problem

def setting (l : Layers) (name : String) (fallback : α) (read : Value → Except Problem α) :
    Checked α :=
  match l.taken? name with
  | some v => Checked.atField name (read v)
  | none => .ok fallback

theorem setting_of_some {l : Layers} {name : String} {v : Value} (h : l.taken? name = some v)
    (fallback : α) (read : Value → Except Problem α) :
    setting l name fallback read = Checked.atField name (read v) := by
  simp only [setting, h]

theorem setting_of_none {l : Layers} {name : String} (h : l.taken? name = none) (fallback : α)
    (read : Value → Except Problem α) : setting l name fallback read = .ok fallback := by
  simp only [setting, h]

def ofLayers (l : Layers) : Checked Settings :=
  (Checked.both (setting l levelField defaultLevel readLevel)
    (setting l exitCodeField defaultExitCode readExitCode)).map fun (level, code) => ⟨level, code⟩

def load (s : Sources) : Checked Settings := ofLayers s.layers

/-- A variable for the exit status alone leaves the level at its default. -/
theorem load_of_exitCode_variable {name text : String} {code : ExitCode}
    (hlevel : Sources.sameName (Sources.namePrefix ++ levelField) name = false)
    (hcode : Sources.sameName (Sources.namePrefix ++ exitCodeField) name = true)
    (hread : readExitCode (.text text) = .ok code) :
    load ⟨[], [(name, text)], none⟩ = .ok ⟨defaultLevel, code⟩ := by
  have hnone : Layers.taken? ⟨[], [(name, text)], []⟩ levelField = none := by
    rw [Layers.taken?_of_lines rfl (by simp [Sources.lastValue?_singleton, hlevel])]
    rfl
  have hsome : Layers.taken? ⟨[], [(name, text)], []⟩ exitCodeField = some (.text text) :=
    Layers.taken?_of_environment rfl (by simp [Sources.lastValue?_singleton, hcode])
  change ofLayers ⟨[], [(name, text)], []⟩ = _
  rw [ofLayers, setting_of_none hnone, setting_of_some hsome, hread]
  rfl

end Settings

end Calculator
