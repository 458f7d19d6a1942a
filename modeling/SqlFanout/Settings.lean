import SqlFanout.Text.Basic

/-!
# Settings

The limits and defaults that a run works under.
-/

namespace SqlFanout

structure Settings where
  maxShardCount : Int := 1000
  previewLimit : Int := 5
  defaultSuffixFormat : Text := "_"
  maxSqlLength : Int := 10000
  defaultVariableName : Text := "sql"
  defaultLanguage : Text := "java"
  sqlDialect : Text := "mysql"
  logLevel : Text := "WARNING"
  deriving DecidableEq, Repr

end SqlFanout
