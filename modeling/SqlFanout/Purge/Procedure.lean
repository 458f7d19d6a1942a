import SqlFanout.Journal
import SqlFanout.Moment
import SqlFanout.Purge.Plan

/-!
# Purge procedures

The stored procedure of a plan.  Rows are deleted in a loop, either through a table that stages the
keys of one batch or directly; a second table may log the progress.
-/

namespace SqlFanout.Purge

open Text

def logTable : Text := "drop_data_log"

def actionTable : Text := "drop_data_action"

/-- The outcome of writing a procedure. -/
structure PurgeProcedure where
  procedure : Text := []
  procedureName : Text := []
  tableName : Text := []
  summary : Text := []
  callExample : Text := []
  plan : Option PurgePlan := none
  success : Bool := false
  errorMessage : Option Text := none
  errorKind : Option FaultKind := none
  deriving DecidableEq, Repr

namespace PurgeProcedure

def failed (message : Text) (kind : Option FaultKind) : PurgeProcedure :=
  { errorMessage := some message, errorKind := kind }

def report (moment : Moment) (result : PurgeProcedure) : Text :=
  if result.success then
    unlines
      ["-- " ++ result.summary,
        "-- 생성 시각: " ++ moment.stamp,
        "",
        result.procedure,
        "",
        "-- 호출 예시: " ++ result.callExample]
  else "배치 삭제 프로시저 생성 실패: " ++ messageOrNone result.errorMessage

end PurgeProcedure

namespace PurgePlan

def headLines (plan : PurgePlan) : List Text :=
  ["CREATE DEFINER=`root`@`%` PROCEDURE `" ++ plan.procedureName ++ "`(",
    "  IN limit_size INT, -- 회당 삭제 건수",
    "  IN create_time_end VARCHAR(50), -- 이 시각 이전에 생성된 데이터 삭제",
    "  IN min_id BIGINT -- last_id 초기값",
    ")",
    "  COMMENT '" ++ plan.comment ++ "'",
    "BEGIN",
    "",
    "  DECLARE done INT DEFAULT 0;  -- 종료 여부",
    "  DECLARE last_id BIGINT DEFAULT 0; -- 시작 주키",
    "",
    "  SET last_id = min_id; -- last_id 초기화",
    ""]

def logTableLines (plan : PurgePlan) : List Text :=
  if plan.addLogTable then
    ["  -- 임시 로그 테이블 생성",
      "  CREATE TEMPORARY TABLE IF NOT EXISTS " ++ logTable ++ " (",
      "    LogID INT AUTO_INCREMENT PRIMARY KEY,",
      "    Message VARCHAR(2000),",
      "    LogTime TIMESTAMP DEFAULT CURRENT_TIMESTAMP",
      "  );",
      ""]
  else []

def actionTableLines (plan : PurgePlan) : List Text :=
  if plan.addTempTable then
    ["  -- 회차별 삭제 대상 주키를 담을 임시 작업 테이블",
      "  CREATE TEMPORARY TABLE IF NOT EXISTS " ++ actionTable ++ " (",
      "    temp_id BIGINT,",
      "    create_time TIMESTAMP",
      "  );",
      ""]
  else []

/-- The statement that logs a batch. -/
def logInsertLines (plan : PurgePlan) : List Text :=
  if plan.addLogTable then
    ["",
      "      INSERT INTO " ++ logTable ++ "(Message) VALUES (",
      "        CONCAT(\"물리 삭제 " ++ plan.tableName
        ++ " last_id:\", last_id, \" 삭제 건수:\", @countData)",
      "      );"]
  else []

/-- The condition of a plan as a further line of a `WHERE` clause. -/
def conditionLines (indent : Text) (plan : PurgePlan) : List Text :=
  if isBlankText plan.condition then [] else [indent ++ "AND " ++ trim plan.condition]

/-- Deletes a batch by way of a table that holds its keys. -/
def stagedLoopLines (plan : PurgePlan) : List Text :=
  let selection : List Text :=
    ["    -- 조회 결과를 임시 테이블에 저장",
      "    SET @sql_save_action = CONCAT(\"",
      "      INSERT INTO " ++ actionTable ++ " (temp_id, create_time)",
      "      SELECT main." ++ plan.keyField ++ ", main." ++ plan.timeField,
      "      FROM " ++ plan.tableName ++ " main",
      "      WHERE main." ++ plan.keyField ++ " > \", last_id, \" ",
      "        AND main." ++ plan.timeField ++ " < '\", create_time_end, \"'"]
  let deletion : List Text :=
    ["      LIMIT \", limit_size);",
      "",
      "    PREPARE stmt FROM @sql_save_action;",
      "    EXECUTE stmt;",
      "    DEALLOCATE PREPARE stmt;",
      "",
      "    -- 저장된 건수가 0이면 반복 종료",
      "    SELECT COUNT(*) INTO @countData FROM " ++ actionTable ++ ";",
      "    IF @countData = 0 THEN",
      "      SET done = 1;",
      "    ELSE",
      "      -- 물리 삭제",
      "      DELETE main FROM " ++ plan.tableName ++ " main",
      "      INNER JOIN " ++ actionTable ++ " a ON main." ++ plan.keyField ++ " = a.temp_id",
      "      WHERE main." ++ plan.timeField ++ " <= create_time_end",
      "        AND main." ++ plan.keyField ++ " > last_id;",
      "",
      "      -- 작업 테이블의 최대 주키를 다음 시작 주키로 사용",
      "      SET last_id = (SELECT MAX(temp_id) FROM " ++ actionTable ++ ");"]
  let ending : List Text :=
    ["    END IF;",
      "",
      "    -- 다음 회차를 위해 작업 테이블 비우기",
      "    TRUNCATE TABLE " ++ actionTable ++ ";"]
  selection ++ plan.conditionLines "        " ++ deletion ++ plan.logInsertLines ++ ending

/-- Deletes a batch from the table itself. -/
def directLoopLines (plan : PurgePlan) : List Text :=
  let key := plan.keyField
  let deletion : List Text :=
    ["    -- 직접 삭제",
      "    DELETE FROM " ++ plan.tableName,
      "    WHERE " ++ key ++ " > last_id",
      "      AND " ++ plan.timeField ++ " < create_time_end"]
  let progress : List Text :=
    ["    LIMIT limit_size;",
      "",
      "    SET @countData = ROW_COUNT();",
      "",
      "    -- 삭제된 행이 없으면 반복 종료",
      "    IF @countData = 0 THEN",
      "      SET done = 1;",
      "    ELSE",
      "      SET last_id = (SELECT MAX(" ++ key ++ ") FROM " ++ plan.tableName ++ " WHERE " ++ key
        ++ " <= last_id + limit_size);"]
  let ending : List Text := ["    END IF;"]
  deletion ++ plan.conditionLines "      " ++ progress ++ plan.logInsertLines ++ ending

def closingLines (plan : PurgePlan) : List Text :=
  let log : List Text :=
    if plan.addLogTable then
      ["  SELECT * FROM " ++ logTable ++ ";", "  DROP TABLE IF EXISTS " ++ logTable ++ ";"]
    else []
  let action : List Text :=
    if plan.addTempTable then ["  DROP TABLE IF EXISTS " ++ actionTable ++ ";"] else []
  log ++ action ++ [("END" : Text)]

def render (plan : PurgePlan) : Text :=
  let opening : List Text := ["  -- 삭제할 레코드가 없을 때까지 반복", "  WHILE done = 0 DO"]
  let loop := if plan.addTempTable then plan.stagedLoopLines else plan.directLoopLines
  let closing : List Text := ["  END WHILE;", ""]
  unlines (plan.headLines ++ plan.logTableLines ++ plan.actionTableLines ++ opening ++ loop ++ closing
    ++ plan.closingLines) ++ "\n"

/-- Checks a plan, then writes its procedure with the given step. -/
def generateWith (step : PurgePlan → Except Fault Text) (strict : Bool) (plan : PurgePlan) :
    Logged PurgeProcedure := do
  let verdict := plan.check strict
  if !verdict.isValid then
    Logged.warning .purge ("배치 삭제 프로시저 생성 거부: " ++ verdict.message)
    return .failed verdict.message verdict.kind
  match step plan with
  | .error fault =>
      Logged.error .purge "배치 삭제 프로시저 생성 중 에러"
      return .failed (sanitize ("배치 삭제 프로시저 생성 중 에러가 발생했습니다: " ++ fault.message))
        fault.kind
  | .ok procedure =>
      return { procedure := procedure, procedureName := plan.procedureName,
               tableName := plan.tableName, summary := plan.summary,
               callExample := plan.callExample, plan := some plan, success := true }

def generate (strict : Bool) (plan : PurgePlan) : Logged PurgeProcedure :=
  plan.generateWith (fun plan => .ok plan.render) strict

end PurgePlan

end SqlFanout.Purge
