import Std.Time
import Calculator.Session

/-!
# The program

The command with the arguments, the environment, the settings file and the clock of the process.
-/

namespace Calculator

namespace Program

/-- All variables of the process; where they cannot be listed, those that a setting is named for. -/
def environment : IO (List (String × String)) := do
  try
    return Sources.readEntries (· = '\x00') (← IO.FS.readFile "/proc/self/environ").toList
  catch _ =>
    [Settings.levelField, Settings.exitCodeField].filterMapM fun field => do
      let name := (Sources.namePrefix ++ field).toUpper
      return (← IO.getEnv name).map (name, ·)

def settingsFile : IO (Option String) := do
  try
    return some (← IO.FS.readFile ".env")
  catch _ =>
    return none

def stamp : IO String := do
  return (← Std.Time.PlainDateTime.now).format "uuuu-MM-dd HH:mm:ss,SSS"

/-- A problem of the settings ends the program with status 1. -/
def run (arguments : List String) : IO UInt32 := do
  let sources : Sources := ⟨[], ← environment, ← settingsFile⟩
  match Command.execute .initial sources arguments with
  | (logger, x) =>
    IO.eprint (logger.output (← stamp) x.records)
    match x.result with
    | .ok r =>
      IO.print r.stdout
      return UInt32.ofNat r.status.toNat
    | .error (.rejected errors) =>
      for e in errors do
        IO.eprintln (e.text)
      return 1
    | .error f =>
      IO.eprintln f.message
      return 1

end Program

end Calculator

def main (arguments : List String) : IO UInt32 := Calculator.Program.run arguments
