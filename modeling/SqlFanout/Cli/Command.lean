import SqlFanout.Cli.Switch
import SqlFanout.Purge.Template
import SqlFanout.Suffix

/-!
# Commands

The commands of the command line and their options.  The first argument that is not a switch names the
command; the arguments behind it are its own.
-/

namespace SqlFanout.Cli

open Text

/-- Where a command takes its text from: a file, if one is named, or an argument. -/
structure InputSource where
  text : Option Text := none
  file : Option Text := none
  deriving DecidableEq, Repr

structure ShardOptions where
  source : InputSource := {}
  tables : List Text := []
  count : Int := 4
  style : SuffixStyle := .sequence
  format : Text := "_"
  startYear : Int := 2020
  startMonth : Int := 1
  preview : Bool := false
  functions : List Text := []
  deriving DecidableEq, Repr

structure CodeOptions where
  source : InputSource := {}
  language : Option Text := none
  variableName : Option Text := none
  noComments : Bool := false
  compact : Bool := false
  deriving DecidableEq, Repr

structure RecoveryOptions where
  source : InputSource := {}
  language : Option Text := none
  pretty : Bool := false
  deriving DecidableEq, Repr

structure PurgeOptions where
  template : Purge.PurgeTemplate := .custom
  procedureName : Option Text := none
  table : Option Text := none
  keyField : Option Text := none
  timeField : Option Text := none
  limit : Option Int := none
  minId : Option Int := none
  endTime : Option Text := none
  condition : Option Text := none
  strict : Bool := false
  deriving DecidableEq, Repr

inductive Command where
  | shard (options : ShardOptions)
  | totals (options : ShardOptions)
  | tables (source : InputSource)
  | code (options : CodeOptions)
  | recovery (options : RecoveryOptions)
  | purge (options : PurgeOptions)
  deriving DecidableEq, Repr

/-- The file that a command takes its text from, if it names one. -/
def Command.inputFile? : Command → Option Text
  | .shard options => options.source.file
  | .totals options => options.source.file
  | .tables source => source.file
  | .code options => options.source.file
  | .recovery options => options.source.file
  | .purge _ => none

/-- The switches for an input, for options that an input is a part of. -/
def sourceSwitches {σ : Type} (textName : Text)
    (change : (InputSource → InputSource) → σ → σ) : List (Switch σ) :=
  [.text textName fun value => change fun source => { source with text := some value },
    .text "--file" fun value => change fun source => { source with file := some value }]

def shardSwitches : List (Switch ShardOptions) :=
  sourceSwitches "--sql" (fun change options => { options with source := change options.source }) ++
  [.text "--table" fun value options => { options with tables := options.tables ++ [value] },
    .integer "--count" fun value options => { options with count := value },
    .choice "--suffix-type" (SuffixStyle.all.map fun style => (style.keyword, style))
      fun value options => { options with style := value },
    .text "--suffix-format" fun value options => { options with format := value },
    .integer "--start-year" fun value options => { options with startYear := value },
    .integer "--start-month" fun value options => { options with startMonth := value }]

def previewSwitch : Switch ShardOptions :=
  .flag "--preview" fun options => { options with preview := true }

def functionSwitch : Switch ShardOptions :=
  .text "--func" fun value options => { options with functions := options.functions ++ [value] }

def codeSwitches : List (Switch CodeOptions) :=
  sourceSwitches "--sql" (fun change options => { options with source := change options.source }) ++
  [.text "--language" fun value options => { options with language := some value },
    .text "--variable" fun value options => { options with variableName := some value },
    .flag "--no-comments" fun options => { options with noComments := true },
    .flag "--compact" fun options => { options with compact := true }]

def recoverySwitches : List (Switch RecoveryOptions) :=
  sourceSwitches "--code" (fun change options => { options with source := change options.source }) ++
  [.text "--language" fun value options => { options with language := some value },
    .flag "--pretty" fun options => { options with pretty := true }]

def purgeSwitches : List (Switch PurgeOptions) :=
  [.choice "--template" (Purge.PurgeTemplate.all.map fun template => (template.keyword, template))
      fun value options => { options with template := value },
    .text "--procedure" fun value options => { options with procedureName := some value },
    .text "--table" fun value options => { options with table := some value },
    .text "--primary-key" fun value options => { options with keyField := some value },
    .text "--time-field" fun value options => { options with timeField := some value },
    .integer "--limit" fun value options => { options with limit := some value },
    .integer "--min-id" fun value options => { options with minId := some value },
    .text "--end-time" fun value options => { options with endTime := some value },
    .text "--where" fun value options => { options with condition := some value },
    .flag "--strict" fun options => { options with strict := true }]

/-- The names of the commands. -/
inductive CommandName where
  | shard
  | stats
  | tables
  | codegen
  | reverse
  | batchDelete
  deriving DecidableEq, Repr

namespace CommandName

def all : List CommandName :=
  [shard, stats, tables, codegen, reverse, batchDelete]

def keyword : CommandName → Text
  | shard => "shard"
  | stats => "stats"
  | tables => "tables"
  | codegen => "codegen"
  | reverse => "reverse"
  | batchDelete => "batch-delete"

/-- Reads the options of a command. -/
def read (name : CommandName) (arguments : List Text) : Except Halt (Command × List Text) :=
  match name with
  | shard =>
      (readOptions (shardSwitches ++ [previewSwitch]) {} arguments).map fun (options, left) =>
        (.shard options, left)
  | stats =>
      (readOptions (shardSwitches ++ [functionSwitch]) {} arguments).map fun (options, left) =>
        (.totals options, left)
  | tables =>
      (readOptions (sourceSwitches "--sql" id) {} arguments).map fun (source, left) =>
        (.tables source, left)
  | codegen =>
      (readOptions codeSwitches {} arguments).map fun (options, left) => (.code options, left)
  | reverse =>
      (readOptions recoverySwitches {} arguments).map fun (options, left) =>
        (.recovery options, left)
  | batchDelete =>
      (readOptions purgeSwitches {} arguments).map fun (options, left) => (.purge options, left)

end CommandName

def programName : Text := "sqlshard"

/-- A complaint under the name of the program that makes it. -/
def Halt.under (program : Text) : Halt → Halt
  | .help => .help
  | .usage message => .usage (program ++ ": error: " ++ message)

/-- Reads a command from its name and its arguments, after arguments that nobody understands. -/
def readNamed (strange : List Text) (name : Text) (arguments : List Text) : Except Halt Command :=
  match CommandName.all.find? fun command => command.keyword == name with
  | none =>
      .error (Halt.under programName (.usage ("argument command: "
        ++ Switch.invalidChoice (CommandName.all.map (·.keyword)) name)))
  | some command =>
      match command.read arguments with
      | .error halt => .error (halt.under (programName ++ " " ++ name))
      | .ok (found, left) =>
          if strange.isEmpty && left.isEmpty then .ok found
          else
            .error (Halt.under programName
              (.usage ("unrecognized arguments: " ++ join " " (strange ++ left))))

/-- Passes over arguments up to the name of a command. -/
def findCommand (strange : List Text) : List Text → Except Halt Command
  | [] => .error (Halt.under programName (.usage "the following arguments are required: command"))
  | argument :: rest =>
      if argument == "--" then
        match rest with
        | [] => findCommand strange []
        | _ :: _ => readNamed strange argument rest
      else
        match (classify [Switch.helpSwitch] argument : Except Halt (Token Unit)) with
        | .error halt => .error (halt.under programName)
        | .ok (.word name) => readNamed strange name rest
        | .ok (.switch switch (some attached)) =>
            .error ((ignored switch attached).under programName)
        | .ok (.switch _ none) => .error .help
        | .ok _ => findCommand (strange ++ [argument]) rest

/-- Reads a command line. -/
def readCommand (arguments : List Text) : Except Halt Command :=
  findCommand [] arguments

end SqlFanout.Cli
