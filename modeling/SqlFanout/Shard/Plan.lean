import SqlFanout.Settings
import SqlFanout.Suffix

/-!
# Shard plans

A plan says which tables of a statement are spread over how many physical tables, and how their names
are told apart.
-/

namespace SqlFanout

structure ShardPlan where
  tables : List Text := []
  series : SuffixSeries := {}
  count : Int := 4
  sql : Text := []
  deriving DecidableEq, Repr

namespace ShardPlan

def minStartYear : Int := 1900

def maxStartYear : Int := 2100

/-- The rules that the start of a calendar series obeys. -/
def checkStart (series : SuffixSeries) : Verdict :=
  if series.style.isCalendar
      && !(minStartYear ≤ series.startYear && series.startYear ≤ maxStartYear) then
    .refuse ("시작 연도는 " ++ Text.ofInt minStartYear ++ "-" ++ Text.ofInt maxStartYear
      ++ " 사이여야 합니다")
  else if series.style == .yearMonth && !(1 ≤ series.startMonth && series.startMonth ≤ 12) then
    .refuse "시작 월은 1-12 사이여야 합니다"
  else .accept "설정 검증 통과"

/-- The rules of a plan in the order in which they are checked. -/
def check (settings : Settings) (plan : ShardPlan) : Verdict :=
  if plan.tables.isEmpty then .refuse "테이블명 목록은 비어 있을 수 없습니다"
  else if plan.count ≤ 0 then .refuse "분표 수는 0보다 커야 합니다"
  else if settings.maxShardCount < plan.count then
    .refuse ("분표 수는 " ++ Text.ofInt settings.maxShardCount ++ "을(를) 넘을 수 없습니다")
  else if Text.isBlankText plan.sql then .refuse "원본 SQL 문장은 비어 있을 수 없습니다"
  else
    (plan.series.style.checkFormat plan.series.format).orElse fun _ => checkStart plan.series

end ShardPlan

end SqlFanout
