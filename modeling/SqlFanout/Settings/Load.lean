import SqlFanout.Settings
import SqlFanout.Settings.Dotenv
import SqlFanout.Settings.Integer
import SqlFanout.Text.Case

/-!
# Loading settings

Settings come from explicit values, from the environment, from a file of variables and from defaults, in
this order of precedence.  Variables carry a common beginning and are named in any case.
-/

namespace SqlFanout.Settings

open Text

/-- A value that a setting is given. -/
inductive Given where
  | text (value : Text)
  | number (value : Int)
  | flag (value : Bool)
  | nothing
  deriving DecidableEq, Repr

/-- What is wrong with a value or its name. -/
inductive Defect where
  | notNumeral
  | notInteger
  | notText
  | unknownName
  deriving DecidableEq, Repr

def Defect.code : Defect → Text
  | .notNumeral => "int_parsing"
  | .notInteger => "int_type"
  | .notText => "string_type"
  | .unknownName => "extra_forbidden"

def integerNames : List Text :=
  ["max_shard_count", "preview_limit", "max_sql_length"]

def textNames : List Text :=
  ["default_suffix_format", "default_variable_name", "default_language", "sql_dialect", "log_level"]

def names : List Text :=
  integerNames ++ textNames

/-- The beginning that the variables of the settings share. -/
def variableStem : Text := "sqlshard_"

def Given.toInteger : Given → Except Defect Int
  | .text value =>
      match readInteger? value with
      | some whole => .ok whole
      | none => .error .notNumeral
  | .number value => .ok value
  | .flag value => .ok (if value then 1 else 0)
  | .nothing => .error .notInteger

def Given.toText : Given → Except Defect Text
  | .text value => .ok value
  | _ => .error .notText

/-- The value of a setting, or its default and the defect of the given value. -/
def choose {α : Type} (convert : Given → Except Defect α) (given : List (Text × Given)) (name : Text)
    (default : α) : α × List (Text × Defect) :=
  match given.lookup name with
  | none => (default, [])
  | some value =>
      match convert value with
      | .ok found => (found, [])
      | .error defect => (default, [(name, defect)])

/-- Variables by their names in lower case. -/
def lowered (bindings : List (Text × Option Text)) : Keyed (Option Text) :=
  Keyed.ofPairs (bindings.map fun (name, value) => (lower name, value))

/-- The settings that variables give. -/
def fromVariables (bindings : Keyed (Option Text)) : List (Text × Given) :=
  names.filterMap fun name =>
    match Keyed.get? bindings (variableStem ++ name) with
    | some (some value) => some (name, .text value)
    | _ => none

/-- Variables of a file that name no setting and have a value that is not empty. -/
def strangers (bindings : Keyed (Option Text)) : List (Text × Defect) :=
  let known := names.map (variableStem ++ ·) ++ names
  bindings.filterMap fun (name, value) =>
    match value with
    | some (_ :: _) => if known.contains name then none else some (name, .unknownName)
    | _ => none

/-- Loads settings from explicit values, the environment and the variables of a file. -/
def load (explicit : List (Text × Given)) (environment : List (Text × Text))
    (bindings : Keyed (Option Text)) : Except (List (Text × Defect)) Settings :=
  let surrounding := lowered (environment.map fun (name, value) => (name, some value))
  let filed := lowered bindings
  let given := explicit ++ fromVariables surrounding ++ fromVariables filed
  let defaults : Settings := {}
  let maxShardCount := choose Given.toInteger given "max_shard_count" defaults.maxShardCount
  let previewLimit := choose Given.toInteger given "preview_limit" defaults.previewLimit
  let suffixFormat := choose Given.toText given "default_suffix_format" defaults.defaultSuffixFormat
  let maxSqlLength := choose Given.toInteger given "max_sql_length" defaults.maxSqlLength
  let variableName := choose Given.toText given "default_variable_name" defaults.defaultVariableName
  let language := choose Given.toText given "default_language" defaults.defaultLanguage
  let dialect := choose Given.toText given "sql_dialect" defaults.sqlDialect
  let logLevel := choose Given.toText given "log_level" defaults.logLevel
  let unknown := explicit.filterMap fun (name, _) =>
    if names.contains name then none else some (name, Defect.unknownName)
  let defects := maxShardCount.2 ++ previewLimit.2 ++ suffixFormat.2 ++ maxSqlLength.2
    ++ variableName.2 ++ language.2 ++ dialect.2 ++ logLevel.2 ++ (unknown ++ strangers filed).eraseDups
  if defects.isEmpty then
    .ok
      { maxShardCount := maxShardCount.1, previewLimit := previewLimit.1,
        defaultSuffixFormat := suffixFormat.1, maxSqlLength := maxSqlLength.1,
        defaultVariableName := variableName.1, defaultLanguage := language.1,
        sqlDialect := dialect.1, logLevel := logLevel.1 }
  else .error defects

end SqlFanout.Settings
