import SqlFanout.Builder.Recovery
import SqlFanout.Cli.Command
import SqlFanout.Cli.Files
import SqlFanout.Purge.Procedure
import SqlFanout.Settings.Load
import SqlFanout.Shard.Totals
import SqlFanout.Sql.Layout

/-!
# Running a command

A run reads the command line and executes the command under the settings that were loaded for it.  All
that it learns from its surroundings is an argument, and so is the console, which may fail to show what it
is given.
-/

namespace SqlFanout.Cli

open Text

/-- What is shown on the console.  Texts are shown as they are; in a panel or a table, brackets may ask
for markup. -/
inductive Output where
  | text (content : Text) (ending : Text) (isAlarm : Bool)
  | panel (content : Text)
  | table (title : Text) (columns : List Text) (rows : List (List Text))
  deriving DecidableEq, Repr

/-- The exit status of a run and what it showed. -/
structure Outcome where
  status : Nat
  output : List Output
  deriving DecidableEq, Repr

/-- Why a run breaks off without an exit status of its own. -/
inductive Abort (ε : Type) where
  | halt (halt : Halt)
  | settings (defects : List (Text × Settings.Defect))
  | threshold
  | undecodable (fault : Utf8.DecodeFault)
  | embeddedNull
  | formatter (error : ε)
  | display (error : ε)

/-- What a run sees of the world: the settings, or why they could not be loaded, the files, the time, a
formatter of statements, and a console that shows what it is given or fails. -/
structure Surroundings (ε : Type) where
  settings : Except (Abort ε) Settings
  files : Files := []
  moment : Moment
  clock : Clock
  formatter : Sql.Formatter ε
  display : Output → Except ε Unit

def thresholdMessage : Text := "Unable to configure logger 'sqlshard'"

namespace Outcome

def failure (message : Text) : Outcome :=
  ⟨1, [.text ("❌ " ++ message) "\n" true]⟩

def line (content : Text) : Output :=
  .text content "\n" false

def success (output : List Output) : Outcome :=
  ⟨0, output⟩

/-- Shows all output in order; what cannot be shown breaks the run off. -/
def shown {ε : Type} (display : Output → Except ε Unit) (outcome : Outcome) :
    Except (Abort ε) Outcome :=
  match outcome.output.forM display with
  | .ok () => .ok outcome
  | .error error => .error (.display error)

end Outcome

variable {ε : Type}

/-- Reads the text that a command works on; an empty name of a file names none. -/
def InputSource.read (files : Files) (source : InputSource) : Except ReadFault Text :=
  match source.file with
  | some (c :: name) => files.readText (c :: name)
  | _ => .ok (source.text.getD [])

/-- Continues with the text of a source, or ends with the fault of reading it. -/
def withText (files : Files) (source : InputSource) (next : Text → Logged (Except (Abort ε) Outcome)) :
    Logged (Except (Abort ε) Outcome) :=
  match source.read files with
  | .ok text => next text
  | .error (.access fault path) =>
      return .ok (.failure ("입력 파일을 읽을 수 없습니다: " ++ fault.message path))
  | .error .embeddedNull => return .error .embeddedNull
  | .error (.undecodable fault) => return .error (.undecodable fault)

/-- A value that an option gives, unless the option is missing or empty. -/
def chosen (option : Option Text) (default : Text) : Text :=
  match option with
  | some (c :: rest) => c :: rest
  | _ => default

def ShardOptions.plan (options : ShardOptions) (sql : Text) : ShardPlan :=
  { tables := options.tables, count := options.count, sql := sql,
    series := ⟨options.style, options.format, options.startYear, options.startMonth⟩ }

def runShard (settings : Settings) (options : ShardOptions) (sql : Text) :
    Logged (Except (Abort ε) Outcome) := do
  let plan := options.plan sql
  let result ← plan.generate settings
  if !result.success then return .ok (.failure (messageOrNone result.errorMessage))
  if options.preview then
    let preview ← plan.preview settings
    return .ok (.success [.panel preview, Outcome.line result.combined])
  return .ok (.success [Outcome.line result.combined])

def runTotals (settings : Settings) (clock : Clock) (assignment : Assignment)
    (options : ShardOptions) (sql : Text) : Logged (Except (Abort ε) Outcome) := do
  let result ← (options.plan sql).generateTotals settings clock assignment
  if !result.success then return .ok (.failure (messageOrNone result.errorMessage))
  return .ok (.success [Outcome.line result.sql])

def tableRows (number : Nat) : List Text → List (List Text)
  | [] => []
  | name :: names => [ofNat number, name] :: tableRows (number + 1) names

def runTables (sql : Text) : Logged (Except (Abort ε) Outcome) := do
  let (verdict, names) ← Sql.checkTables sql
  if !verdict.isValid then return .ok (.failure verdict.message)
  return .ok (.success [.table "추출된 테이블" ["#", "테이블명"] (tableRows 1 names)])

def runCode (settings : Settings) (language : Builder.Language) (options : CodeOptions)
    (sql : Text) : Logged (Except (Abort ε) Outcome) := do
  let result ← Builder.CodeRequest.generate settings
    { variableName := chosen options.variableName settings.defaultVariableName
      language := language
      sql := sql
      addComments := !options.noComments
      formatCode := !options.compact }
  if !result.success then return .ok (.failure (messageOrNone result.errorMessage))
  return .ok (.success [.text result.code "" false])

def runRecovery (formatter : Sql.Formatter ε) (settings : Settings)
    (language : Option Builder.Language) (pretty : Bool) (code : Text) :
    Logged (Except (Abort ε) Outcome) := do
  let result ← Builder.RecoveredSql.recover language code
  if !result.success then return .ok (.failure (messageOrNone result.errorMessage))
  if pretty then
    match ← Sql.prettify formatter settings.sqlDialect result.sql with
    | .error error => return .error (.formatter error)
    | .ok sql => return .ok (.success [Outcome.line sql])
  return .ok (.success [Outcome.line result.sql])

/-- The plan that the options make of their template.  A custom procedure for a named table is called
after the table. -/
def PurgeOptions.plan (options : PurgeOptions) : Purge.PurgePlan :=
  let procedureName :=
    match options.procedureName, options.table, options.template with
    | none, some (c :: table), .custom => some (Purge.defaultProcedureName (c :: table))
    | given, _, _ => given
  let overrides : Purge.PurgeOverrides :=
    { procedureName := procedureName, tableName := options.table, keyField := options.keyField,
      timeField := options.timeField, limitSize := options.limit, minId := options.minId,
      endTime := options.endTime, condition := options.condition }
  overrides.apply options.template.plan

def runPurge (moment : Moment) (options : PurgeOptions) : Logged (Except (Abort ε) Outcome) := do
  let result ← options.plan.generate options.strict
  if !result.success then return .ok (.failure (messageOrNone result.errorMessage))
  return .ok (.success [Outcome.line (result.report moment)])

/-- Executes a command.  What an option says wrongly is reported before any file is read. -/
def Command.execute (surroundings : Surroundings ε) (settings : Settings) :
    Command → Logged (Except (Abort ε) Outcome)
  | .shard options => withText surroundings.files options.source (runShard settings options)
  | .totals options =>
      match Assignment.readItems options.functions with
      | .error fault => return .ok (.failure fault.message)
      | .ok assignment =>
          withText surroundings.files options.source
            (runTotals settings surroundings.clock assignment options)
  | .tables source => withText surroundings.files source runTables
  | .code options =>
      match Builder.Language.ofName (chosen options.language settings.defaultLanguage) with
      | .error fault => return .ok (.failure fault.message)
      | .ok language =>
          withText surroundings.files options.source (runCode settings language options)
  | .recovery options =>
      let continueWith (language : Option Builder.Language) : Logged (Except (Abort ε) Outcome) :=
        withText surroundings.files options.source
          (runRecovery surroundings.formatter settings language options.pretty)
      match options.language with
      | some (c :: name) =>
          match Builder.Language.ofName (c :: name) with
          | .error fault => return .ok (.failure fault.message)
          | .ok language => continueWith (some language)
      | _ => continueWith none
  | .purge options => runPurge surroundings.moment options

/-- Runs a command line and shows its output.  Only the records that pass the threshold of the settings are
kept. -/
def run (surroundings : Surroundings ε) (arguments : List Text) :
    Logged (Except (Abort ε) Outcome) :=
  match readCommand arguments with
  | .error halt => return .error (.halt halt)
  | .ok command =>
      match surroundings.settings with
      | .error abort => return .error abort
      | .ok settings =>
          match Severity.ofName? settings.logLevel with
          | none => return .error .threshold
          | some threshold =>
              let done := command.execute surroundings settings
              ⟨done.records.filter (·.passes threshold),
                done.value.bind (·.shown surroundings.display)⟩

/-- The variables of the file for settings, which may be missing. -/
def fileVariables (files : Files) (environment : List (Text × Text)) :
    Except Utf8.DecodeFault (Keyed (Option Text)) :=
  match files.readText ".env" with
  | .ok text => .ok (Dotenv.resolved environment text)
  | .error (.undecodable fault) => .error fault
  | .error _ => .ok []

/-- Loads the settings for given explicit values from the environment and the file for settings. -/
def loadSettings (files : Files) (environment : List (Text × Text))
    (explicit : List (Text × Settings.Given)) : Except (Abort ε) Settings :=
  match fileVariables files environment with
  | .error fault => .error (.undecodable fault)
  | .ok bindings =>
      match Settings.load explicit environment bindings with
      | .error defects => .error (.settings defects)
      | .ok settings => .ok settings

end SqlFanout.Cli
