import SqlFanout.Shard.Aggregate
import SqlFanout.Shard.Statements
import SqlFanout.Sql.SelectField

/-!
# Totals over shards

The statements of all shards, with their fields given the same aliases, are united in a derived table;
the outer statement applies one aggregate function to each of its columns.
-/

namespace SqlFanout

/-- The outcome of making a statement for totals. -/
structure ShardTotals where
  sql : Text := []
  count : Int := 0
  tables : List Text := []
  fields : List Sql.SelectField := []
  success : Bool := false
  errorMessage : Option Text := none
  errorKind : Option FaultKind := none
  deriving DecidableEq, Repr

namespace ShardTotals

def failed (message : Text) (kind : Option FaultKind) : ShardTotals :=
  { errorMessage := some message, errorKind := kind }

def fieldLine (field : Sql.SelectField) : Text :=
  field.expression ++ " → " ++ field.label ++ (if field.isExplicit then "" else " (자동 별칭)")

def report (moment : Moment) (result : ShardTotals) : Text :=
  if result.success then
    let head : List Text :=
      ["=== 분표 통계 SQL 생성 결과 ===",
        "분표 수: " ++ Text.ofInt result.count,
        "대상 테이블: " ++ Text.join ", " result.tables,
        "생성 시각: " ++ moment.stamp,
        "",
        "=== 필드 ==="]
    let tail : List Text := ["", "=== 통계 SQL ===", result.sql]
    Text.unlines (head ++ result.fields.map fieldLine ++ tail)
  else "분표 통계 SQL 생성 실패: " ++ messageOrNone result.errorMessage

end ShardTotals

/-- The alias of the derived table. -/
def unionAlias : Text := "unionTable"

/-- The function for expressions that are assigned none. -/
def defaultAggregate : AggregateFunction := .sum

/-- A statement without blanks at its ends, the semicolons at its end and the blanks before them. -/
def stripTerminator (sql : Text) : Text :=
  Text.trimRight (Text.dropTrailing (· == ';') (Text.trim sql))

namespace ShardPlan

/-- The rules of a plan whose statement has to be a query. -/
def checkQuery (settings : Settings) (plan : ShardPlan) : Verdict :=
  (plan.check settings).orElse fun _ =>
    if Sql.hasSelect plan.sql then Sql.checkShape plan.sql
    else .refuse "SQL 문장에 SELECT 절이 있어야 합니다"

/-- The expressions of a query that are assigned no function. -/
def unassigned (clock : Clock) (assignment : Assignment) (plan : ShardPlan) :
    Logged (Except Fault (List Text)) := do
  match ← Sql.readSelectList clock plan.sql with
  | .error fault => return .error fault
  | .ok fields =>
      return .ok ((fields.map (·.expression)).filter fun expression =>
        (assignment.get? expression).isNone)

/-- The query of one shard, with its fields spelled out. -/
def branch (plan : ShardPlan) (fields : List Sql.SelectField) (suffix : Text) : Text :=
  Sql.replaceFields fields (Sql.renameTables plan.tables suffix (stripTerminator plan.sql))

/-- The column of the outer query that sums up a field. -/
def totalOf (assignment : Assignment) (field : Sql.SelectField) : Text :=
  ((assignment.get? field.expression).getD defaultAggregate).apply unionAlias field.label

/-- The aggregates over the union of the queries of all shards. -/
def totalsSql (plan : ShardPlan) (fields : List Sql.SelectField) (assignment : Assignment) :
    Logged (Except Fault Text) := do
  let suffixes ← plan.series.list plan.count
  let branches := suffixes.map (plan.branch fields)
  let columns := Text.join ", " (fields.map (totalOf assignment))
  return .ok ("SELECT " ++ columns ++ " FROM (\n" ++ Text.join " UNION ALL\n" branches ++ "\n) "
    ++ unionAlias)

/-- Reads the fields of a query and runs a step that makes the statement for their totals. -/
def totalsOf (step : ShardPlan → List Sql.SelectField → Assignment → Logged (Except Fault Text))
    (clock : Clock) (assignment : Assignment) (plan : ShardPlan) :
    Logged (Except Fault (List Sql.SelectField × Text)) := do
  match ← Sql.readSelectList clock plan.sql with
  | .error fault => return .error fault
  | .ok fields =>
      match ← step plan fields assignment with
      | .error fault => return .error fault
      | .ok sql => return .ok (fields, sql)

/-- Checks a plan, then makes the statement for its totals with the given step. -/
def generateTotalsWith
    (step : ShardPlan → List Sql.SelectField → Assignment → Logged (Except Fault Text))
    (settings : Settings) (clock : Clock) (assignment : Assignment) (plan : ShardPlan) :
    Logged ShardTotals := do
  let verdict := plan.checkQuery settings
  if !verdict.isValid then
    Logged.warning .totals ("분표 통계 SQL 생성 거부: " ++ verdict.message)
    return .failed verdict.message verdict.kind
  match ← plan.totalsOf step clock assignment with
  | .error fault =>
      if fault.isOwn then
        Logged.warning .totals ("분표 통계 SQL 생성 실패: " ++ fault.message)
        return .failed (sanitize fault.message) fault.kind
      else
        Logged.error .totals "분표 통계 SQL 생성 중 에러"
        return .failed (sanitize ("분표 통계 SQL 생성 중 에러가 발생했습니다: " ++ fault.message))
          fault.kind
  | .ok (fields, sql) =>
      return { sql := sql, count := plan.count, tables := plan.tables, fields := fields,
               success := true }

def generateTotals (settings : Settings) (clock : Clock) (assignment : Assignment)
    (plan : ShardPlan) : Logged ShardTotals :=
  plan.generateTotalsWith totalsSql settings clock assignment

end ShardPlan

end SqlFanout
