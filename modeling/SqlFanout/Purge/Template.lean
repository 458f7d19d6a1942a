import SqlFanout.Moment
import SqlFanout.Purge.Plan
import SqlFanout.Text.Case

/-!
# Templates for purge plans

Ready-made plans for common occasions, with advice on their use.
-/

namespace SqlFanout.Purge

open Text

inductive PurgeTemplate where
  | systemLog
  | userOperationLog
  | businessData
  | temporaryData
  | auditLog
  | custom
  deriving DecidableEq, Repr

namespace PurgeTemplate

def all : List PurgeTemplate :=
  [systemLog, userOperationLog, businessData, temporaryData, auditLog, custom]

def constant : PurgeTemplate → Text
  | systemLog => "SYSTEM_LOG_CLEANUP"
  | userOperationLog => "USER_OPERATION_LOG_CLEANUP"
  | businessData => "BUSINESS_DATA_CLEANUP"
  | temporaryData => "TEMP_DATA_CLEANUP"
  | auditLog => "AUDIT_LOG_CLEANUP"
  | custom => "CUSTOM"

/-- The word that selects a template on the command line. -/
def keyword (template : PurgeTemplate) : Text :=
  lower template.constant

def ofConstant? (text : Text) : Option PurgeTemplate :=
  all.find? fun template => template.constant == text

def displayName : PurgeTemplate → Text
  | systemLog => "시스템 로그 정리"
  | userOperationLog => "사용자 작업 로그 정리"
  | businessData => "업무 데이터 정리"
  | temporaryData => "임시 데이터 정리"
  | auditLog => "감사 로그 정리"
  | custom => "사용자 정의"

def description : PurgeTemplate → Text
  | systemLog => "시스템 로그 테이블의 이력 데이터 정리, 로그 타입 필터 지원"
  | userOperationLog => "사용자 작업 로그 테이블의 이력 데이터 정리"
  | businessData => "주문, 거래 기록 등 업무 테이블의 이력 데이터 정리"
  | temporaryData => "임시 테이블, 캐시 테이블 등 장기 보관이 필요 없는 데이터 정리"
  | auditLog => "감사 로그 테이블의 이력 데이터 정리, 중요 감사 기록 보존"
  | custom => "모든 파라미터를 직접 설정, 특수한 시나리오용"

def plan : PurgeTemplate → PurgePlan
  | systemLog =>
      { procedureName := "DropHistoryDataByLimit", tableName := "system_logs",
        timeField := "log_time", limitSize := 1000, endTime := "2023-01-01 00:00:00",
        condition := "log_type IN ('DEBUG', 'INFO')",
        comment := "system_logs 이력 데이터 반복 삭제 - 주키를 임시 테이블에 저장 후 조인 삭제" }
  | userOperationLog =>
      { procedureName := "DropUserOperationLogHistory", tableName := "user_operation_logs",
        limitSize := 2000, endTime := "2023-01-01 00:00:00",
        condition := "operation_type IN ('LOGIN', 'LOGOUT', 'VIEW')",
        comment := "user_operation_logs 이력 데이터 반복 삭제" }
  | businessData =>
      { procedureName := "DropBusinessDataHistory", tableName := "business_records",
        timeField := "created_at", limitSize := 5000, endTime := "2022-01-01 00:00:00",
        condition := "status = 'COMPLETED'",
        comment := "업무 데이터 테이블 이력 데이터 반복 삭제" }
  | temporaryData =>
      { procedureName := "DropTempDataHistory", tableName := "temp_data",
        timeField := "expire_time", limitSize := 10000, endTime := "2023-01-01 00:00:00",
        addLogTable := false, addTempTable := false, condition := "is_expired = 1",
        comment := "임시 데이터 테이블 만료 데이터 정리" }
  | auditLog =>
      { procedureName := "DropAuditLogHistory", tableName := "audit_logs",
        timeField := "audit_time", limitSize := 1000, endTime := "2022-01-01 00:00:00",
        condition := "audit_level IN ('INFO', 'DEBUG')",
        comment := "감사 로그 테이블 이력 데이터 반복 삭제" }
  | custom =>
      { procedureName := "DropHistoryDataByLimit", tableName := "your_table_name",
        limitSize := 1000, endTime := "2023-01-01 00:00:00" }

def suggestions : PurgeTemplate → List Text
  | systemLog =>
      ["시스템 부하가 낮은 시간대에 실행", "로그 양에 따라 회당 삭제 건수 조정",
        "ERROR, WARN 레벨 로그는 보존", "실행 전 중요 로그 백업"]
  | userOperationLog =>
      ["로그인/로그아웃 등 중요 작업 기록은 보존", "사용자 수에 따라 삭제 빈도 조정",
        "사용자 ID 기준 분할 삭제 고려", "실행 전 업무 요구사항 확인"]
  | businessData =>
      ["완료 상태의 데이터만 삭제", "업무 영향이 없도록 분할 실행",
        "실행 전 반드시 데이터 백업", "직접 삭제 대신 아카이빙 고려"]
  | temporaryData =>
      ["스케줄 작업으로 자동 실행 가능", "삭제 빈도를 높게 설정 가능",
        "보존이 필요 없는 데이터인지 확인", "삭제가 성능에 미치는 영향 모니터링"]
  | auditLog =>
      ["중요 감사 기록은 보존", "컴플라이언스 요구사항 준수",
        "삭제 전 아카이빙 권장", "삭제 작업 자체를 기록"]
  | custom =>
      ["업무 시나리오에 맞게 파라미터 조정", "테스트 환경에서 먼저 검증",
        "소량으로 테스트한 뒤 대량 실행", "실행 과정과 결과 모니터링"]

def detail (template : PurgeTemplate) : Text :=
  let plan := template.plan
  let facts : List Text :=
    ["템플릿: " ++ template.displayName,
      "적용 시나리오: " ++ template.description,
      "",
      "사전 설정:",
      "- 프로시저명: " ++ plan.procedureName,
      "- 주 테이블: " ++ plan.tableName,
      "- 주키 필드: " ++ plan.keyField,
      "- 시간 필드: " ++ plan.timeField,
      "- 회당 삭제 건수: " ++ ofInt plan.limitSize,
      "- 시작 주키: " ++ ofInt plan.minId,
      "- 삭제 기준 시각: " ++ plan.endTime,
      "- 로그 테이블 추가: " ++ yesNo plan.addLogTable,
      "- 임시 테이블 추가: " ++ yesNo plan.addTempTable]
  let condition : List Text :=
    if isBlankText plan.condition then [] else ["- 사용자 정의 조건: " ++ plan.condition]
  let comment : List Text := ["- 프로시저 주석: " ++ plan.comment]
  unlines (facts ++ condition ++ comment)

def numbered (number : Nat) : List Text → List Text
  | [] => []
  | line :: rest => (Text.ofNat number ++ ". " ++ line) :: numbered (number + 1) rest

def usage (template : PurgeTemplate) : Text :=
  unlines ("사용 제안:" :: numbered 1 template.suggestions)

end PurgeTemplate

/-- Values that take the place of those of a template. -/
structure PurgeOverrides where
  procedureName : Option Text := none
  tableName : Option Text := none
  keyField : Option Text := none
  timeField : Option Text := none
  limitSize : Option Int := none
  minId : Option Int := none
  endTime : Option Text := none
  addLogTable : Option Bool := none
  addTempTable : Option Bool := none
  condition : Option Text := none
  comment : Option Text := none

def PurgeOverrides.apply (overrides : PurgeOverrides) (plan : PurgePlan) : PurgePlan :=
  { procedureName := overrides.procedureName.getD plan.procedureName
    tableName := overrides.tableName.getD plan.tableName
    keyField := overrides.keyField.getD plan.keyField
    timeField := overrides.timeField.getD plan.timeField
    limitSize := overrides.limitSize.getD plan.limitSize
    minId := overrides.minId.getD plan.minId
    endTime := overrides.endTime.getD plan.endTime
    addLogTable := overrides.addLogTable.getD plan.addLogTable
    addTempTable := overrides.addTempTable.getD plan.addTempTable
    condition := overrides.condition.getD plan.condition
    comment := overrides.comment.getD plan.comment }

end SqlFanout.Purge
