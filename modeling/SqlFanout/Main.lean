import SqlFanout.Cli.Run
import Std.Time.Zoned

/-!
# The program

Gathers what a run needs to know, runs the command line and shows the outcome.
-/

namespace SqlFanout.Program

open Cli

/-- The entry of a file, if there is one. -/
def readEntry (path : Text) : IO Files := do
  match ← (IO.FS.readBinFile (String.ofList path)).toBaseIO with
  | .ok bytes => return [(path, .file (bytes.toList.map UInt8.toNat))]
  | .error (.inappropriateType ..) => return [(path, .directory)]
  | .error _ => return []

/-- The variables of the environment that settings are read from. -/
def readEnvironment : IO (List (Text × Text)) := do
  let bindings ← Settings.names.mapM fun name => do
    let key := Text.upper (Settings.variableStem ++ name)
    let value ← IO.getEnv (String.ofList key)
    return (key, value)
  return bindings.filterMap fun (key, value) => value.map fun found => (key, found.toList)

def readMoment : IO Moment := do
  let now ← Std.Time.PlainDateTime.now
  return ⟨now.year.toInt.toNat, now.month.val.toNat, now.day.val.toNat, now.hour.val.toNat,
    now.minute.val.toNat, now.second.val.toNat⟩

def readMillis : IO Nat := do
  let now ← Std.Time.Timestamp.now
  return now.toMillisecondsSinceUnixEpoch.val.toNat

/-- There is no formatter at hand, so that every statement is tidied instead. -/
def noFormatter : Sql.Formatter Empty := fun _ _ => .rejected "no formatter"

def surroundings (arguments : List Text) : IO (Surroundings Empty) := do
  let input ←
    match readCommand arguments with
    | .ok command =>
        match command.inputFile? with
        | some path => readEntry path
        | none => pure []
    | .error _ => pure []
  let files := (← readEntry ".env") ++ input
  return { settings := loadSettings files (← readEnvironment) [], files := files,
           moment := ← readMoment, clock := .stopped (← readMillis), formatter := noFormatter,
           display := fun _ => .ok () }

def display : Output → IO Unit
  | .text content ending _ => IO.print (String.ofList (content ++ ending))
  | .panel content => IO.println (String.ofList content)
  | .table title columns rows => do
      IO.println (String.ofList title)
      for row in columns :: rows do
        IO.println (String.ofList (Text.join "  " row))

def showRecord (record : Record) : IO Unit :=
  IO.eprintln (String.ofList
    (record.severity.name ++ " [" ++ record.author.name ++ "] " ++ record.message))

def abortMessage : Abort Empty → Text
  | .halt .help => "commands: " ++ Text.join ", " (CommandName.all.map (·.keyword))
  | .halt (.usage message) => message
  | .settings defects =>
      Text.join ", " (defects.map fun (name, defect) => name ++ ": " ++ defect.code)
  | .threshold => thresholdMessage
  | .undecodable fault => fault.message
  | .embeddedNull => "embedded null byte"

def abortStatus : Abort Empty → UInt32
  | .halt .help => 0
  | .halt (.usage _) => 2
  | _ => 1

/-- Runs a command line in the surroundings that are found. -/
def execute (arguments : List Text) : IO UInt32 := do
  let done := Cli.run (← surroundings arguments) arguments
  done.records.forM showRecord
  match done.value with
  | .ok outcome =>
      outcome.output.forM display
      return outcome.status.toUInt32
  | .error abort =>
      IO.eprintln (String.ofList (abortMessage abort))
      return abortStatus abort

end SqlFanout.Program

def main (arguments : List String) : IO UInt32 :=
  SqlFanout.Program.execute (arguments.map String.toList)
