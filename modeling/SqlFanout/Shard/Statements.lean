import SqlFanout.Moment
import SqlFanout.Shard.Plan
import SqlFanout.Sql.Shape

/-!
# Sharded statements

One statement per suffix, in which every planned table has the suffix appended to its name.
-/

namespace SqlFanout

/-- The outcome of sharding a statement. -/
structure ShardedSql where
  statements : List Text := []
  count : Int := 0
  tables : List Text := []
  success : Bool := false
  errorMessage : Option Text := none
  errorKind : Option FaultKind := none
  deriving DecidableEq, Repr

namespace ShardedSql

def failed (message : Text) (kind : Option FaultKind) : ShardedSql :=
  { errorMessage := some message, errorKind := kind }

/-- All statements, separated by empty lines. -/
def combined (result : ShardedSql) : Text :=
  Text.join "\n\n" result.statements

def report (moment : Moment) (result : ShardedSql) : Text :=
  let head : List Text :=
    ["=== 분표 SQL 생성 결과 ===",
      "분표 수: " ++ Text.ofInt result.count,
      "대상 테이블: " ++ Text.join ", " result.tables,
      "생성 시각: " ++ moment.stamp,
      "상태: " ++ outcomeWord result.success]
  let body : List Text :=
    if result.success then ["", List.replicate 50 '=', result.combined]
    else
      match result.errorMessage with
      | some message => if message.isEmpty then [] else ["에러: " ++ message]
      | none => []
  Text.unlines (head ++ body)

end ShardedSql

namespace ShardPlan

/-- The statements of a plan in the order of their suffixes. -/
def statements (plan : ShardPlan) : Logged (Except Fault (List Text)) := do
  let suffixes ← plan.series.list plan.count
  return .ok (suffixes.map fun suffix => Sql.renameTables plan.tables suffix plan.sql)

/-- Checks a plan and its statement, then runs a step that makes the sharded statements. -/
def generateWith (step : ShardPlan → Logged (Except Fault (List Text))) (settings : Settings)
    (plan : ShardPlan) : Logged ShardedSql := do
  let verdict := (plan.check settings).orElse fun _ => Sql.checkShape plan.sql
  if !verdict.isValid then
    Logged.warning .sharding ("분표 SQL 생성 거부: " ++ verdict.message)
    return .failed verdict.message verdict.kind
  match ← step plan with
  | .error fault =>
      Logged.error .sharding "분표 SQL 생성 중 에러"
      return .failed (sanitize ("분표 SQL 생성 중 에러가 발생했습니다: " ++ fault.message)) fault.kind
  | .ok statements =>
      Logged.debug .sharding ("분표 SQL " ++ Text.ofNat statements.length ++ "개 생성")
      return { statements := statements, count := plan.count, tables := plan.tables, success := true }

def generate (settings : Settings) (plan : ShardPlan) : Logged ShardedSql :=
  plan.generateWith statements settings

/-- The physical tables of a plan; only the first ones are named. -/
def preview (settings : Settings) (plan : ShardPlan) : Logged Text := do
  let limit := settings.previewLimit
  let series := plan.series
  let head : List Text :=
    ["분표 설정 미리보기:",
      "• 테이블명: " ++ Text.join ", " plan.tables,
      "• 분표 수: " ++ Text.ofInt plan.count,
      "• 접미사 타입: " ++ series.style.displayName,
      "• 접미사 포맷: " ++ series.format]
  let year : List Text :=
    if series.style.isCalendar then ["• 시작 연도: " ++ Text.ofInt series.startYear] else []
  let month : List Text :=
    if series.style == .yearMonth then ["• 시작 월: " ++ Text.ofInt series.startMonth] else []
  let suffixes ← series.list (min (max plan.count 0) limit)
  let names := plan.tables.flatMap fun table =>
    suffixes.map fun suffix => ("  • " : Text) ++ table ++ suffix
  let more : List Text :=
    if limit < plan.count then
      ["  • ... (" ++ Text.ofInt (plan.count - limit) ++ "개 더 있음)"]
    else []
  let title : List Text := ["", "생성될 분표 테이블명 예시:"]
  return Text.unlines (head ++ year ++ month ++ title ++ names ++ more)

end ShardPlan

end SqlFanout
