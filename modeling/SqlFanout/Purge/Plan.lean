import SqlFanout.Text.Alphabet
import SqlFanout.Text.Blank
import SqlFanout.Text.Numeral
import SqlFanout.Verdict

/-!
# Purge plans

A plan for deleting old rows of a table in batches by a stored procedure.  Plans are checked for what
is missing; a strict check also looks at the form of names and of the time limit.
-/

namespace SqlFanout.Purge

open Text

structure PurgePlan where
  procedureName : Text := []
  tableName : Text := []
  keyField : Text := "id"
  timeField : Text := "create_time"
  limitSize : Int := 1000
  minId : Int := 0
  endTime : Text := []
  addLogTable : Bool := true
  addTempTable : Bool := true
  condition : Text := []
  comment : Text := "배치 삭제 이력 데이터 프로시저"
  deriving DecidableEq, Repr

/-- Names are made of word characters and do not start with a digit. -/
def checkIdentifier (label value : Text) : Verdict :=
  let strange := value.filter fun c => !isWord c
  if isBlankText value then .refuse (label ++ "은(는) 비어 있을 수 없습니다")
  else if !strange.isEmpty then
    .refuse (label ++ "에 허용되지 않는 문자가 있습니다: " ++ strange)
  else if value.head?.any isDigit then .refuse (label ++ "은(는) 숫자로 시작할 수 없습니다")
  else .accept (label ++ " 형식이 올바릅니다")

/-- The forms of a time limit; `d` stands for a decimal digit. -/
def timeForms : List Text :=
  ["dddd-dd-dd", "dddd-dd-dd dd:dd:dd", "dddd/dd/dd", "dddd/dd/dd dd:dd:dd"]

/-- Whether a text has a form.  A line feed may follow it. -/
def hasForm : Text → Text → Bool
  | [], rest => rest.isEmpty || rest == ['\n']
  | _ :: _, [] => false
  | f :: form, c :: rest => (if f == 'd' then isDecimal c else f == c) && hasForm form rest

def checkTime (value : Text) : Verdict :=
  if isBlankText value then .refuse "시각은 비어 있을 수 없습니다"
  else if timeForms.any (hasForm · value) then .accept "시각 형식이 올바릅니다"
  else
    .refuse "시각 형식이 올바르지 않습니다. 지원 형식: YYYY-MM-DD 또는 YYYY-MM-DD HH:MM:SS"

/-- The name of a procedure for a table, if none is chosen. -/
def defaultProcedureName (tableName : Text) : Text :=
  "DropHistoryDataByLimit_" ++ tableName

/-- The first verdict on a list of texts that refuses, if one does. -/
def firstRefusal? (verdict : Text → Text → Verdict) (labelled : List (Text × Text)) :
    Option Verdict :=
  (labelled.map fun (label, value) => verdict label value).find? fun found => !found.isValid

def checkPresent (label value : Text) : Verdict :=
  if isBlankText value then .refuse (label ++ "은(는) 비어 있을 수 없습니다") else .accept label

namespace PurgePlan

/-- The names that a plan needs, with their labels. -/
def names (plan : PurgePlan) : List (Text × Text) :=
  [("프로시저명", plan.procedureName), ("주 테이블명", plan.tableName),
    ("주키 필드명", plan.keyField), ("시간 필드명", plan.timeField)]

/-- The form of the names and then of the time limit. -/
def checkForms (plan : PurgePlan) : Verdict :=
  match firstRefusal? checkIdentifier plan.names with
  | some refusal => refusal
  | none => (checkTime plan.endTime).orElse fun _ => .accept "설정 검증 통과"

def check (strict : Bool) (plan : PurgePlan) : Verdict :=
  match firstRefusal? checkPresent plan.names with
  | some refusal => refusal
  | none =>
      if plan.limitSize ≤ 0 then .refuse "회당 삭제 건수는 0보다 커야 합니다"
      else if isBlankText plan.endTime then .refuse "삭제 기준 시각은 비어 있을 수 없습니다"
      else if strict then plan.checkForms
      else .accept "설정 검증 통과"

/-- All settings of a plan in one line. -/
def summary (plan : PurgePlan) : Text :=
  let parts : List Text :=
    ["프로시저명: " ++ plan.procedureName,
      "주 테이블: " ++ plan.tableName,
      "주키: " ++ plan.keyField,
      "시간 필드: " ++ plan.timeField,
      "회당 삭제: " ++ ofInt plan.limitSize ++ "건",
      "시작 주키: " ++ ofInt plan.minId,
      "기준 시각: " ++ plan.endTime]
  let condition : List Text :=
    if isBlankText plan.condition then [] else ["사용자 정의 조건: " ++ plan.condition]
  join ", " (parts ++ condition)

/-- A statement that calls the procedure. -/
def callExample (plan : PurgePlan) : Text :=
  "CALL " ++ plan.procedureName ++ "(" ++ ofInt plan.limitSize ++ ", '" ++ plan.endTime ++ "', "
    ++ ofInt plan.minId ++ ");"

end PurgePlan

end SqlFanout.Purge
