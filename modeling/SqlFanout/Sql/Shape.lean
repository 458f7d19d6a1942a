import SqlFanout.Journal
import SqlFanout.Sql.TableReference
import SqlFanout.Verdict

/-!
# The shape of a statement

A text passes for a statement if it is not blank, holds the keyword of a statement anywhere and has as
many opening as closing parentheses.
-/

namespace SqlFanout.Sql

open Text

def statementKeywords : List Text :=
  ["SELECT", "INSERT", "UPDATE", "DELETE", "CREATE", "DROP", "ALTER"]

def checkShape (sql : Text) : Verdict :=
  if isBlankText sql then .refuse "SQL 문장은 비어 있을 수 없습니다"
  else
    let raised := upper (trim sql)
    if !statementKeywords.any (occursIn · raised) then
      .malformed "SQL 형식이 올바르지 않습니다. 유효한 SQL 키워드가 포함되어 있는지 확인하세요"
    else if raised.count '(' != raised.count ')' then
      .malformed "SQL 문장의 괄호가 맞지 않습니다"
    else .accept "SQL 형식이 올바릅니다"

/-- The tables of a statement of the right shape; a statement without a table is refused. -/
def checkTables (sql : Text) : Logged (Verdict × List Text) := do
  let shape := checkShape sql
  if !shape.isValid then return (shape, [])
  match tableNames sql with
  | [] =>
      Logged.warning .tables "테이블명을 찾지 못함"
      return (.malformed "유효한 테이블명을 찾지 못했습니다. SQL 문장을 확인하세요", [])
  | names => return (.accept ("테이블 " ++ ofNat names.length ++ "개 추출"), names)

/-- How many references and how many different tables a text has. -/
structure TableStatistics where
  total : Nat
  names : List Text
  deriving DecidableEq, Repr

def TableStatistics.ofSql (sql : Text) : TableStatistics :=
  let names := (TableReference.all sql).map (·.table)
  ⟨names.length, names.eraseDups⟩

def TableStatistics.report (statistics : TableStatistics) : Text :=
  let head : List Text :=
    ["테이블명 추출 통계:",
      "• 전체 테이블명 수: " ++ ofNat statistics.total,
      "• 고유 테이블명 수: " ++ ofNat statistics.names.length,
      "• 테이블명 목록: " ++ join ", " statistics.names]
  let note : List Text :=
    if statistics.total != statistics.names.length then ["• 참고: 중복된 테이블명이 있습니다"] else []
  unlines (head ++ note)

end SqlFanout.Sql
