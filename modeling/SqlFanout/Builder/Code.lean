import SqlFanout.Builder.Language
import SqlFanout.Builder.Literal
import SqlFanout.Journal
import SqlFanout.Moment
import SqlFanout.Settings
import SqlFanout.Text.LineBreak
import SqlFanout.Verdict

/-!
# Builder code

The code that assembles a statement line by line: a declaration, one appending call per line that is
not blank, and the statement that reads the builder.  Each call appends a space, so that the last word
of a line and the first of the next stay apart.
-/

namespace SqlFanout.Builder

open Text

/-- A letter or an underscore, followed by letters, numbers and underscores. -/
def isVariableName : Text → Bool
  | [] => false
  | c :: rest => (isLetter c || c == '_') && rest.all isWord

/-- The text with its first character in upper case. -/
def capitalize : Text → Text
  | [] => []
  | c :: rest => upperChar c ++ rest

/-- The first lines, or, for a negative limit, all but the last ones. -/
def firstLines (limit : Int) (lines : List Text) : List Text :=
  if 0 ≤ limit then lines.take limit.toNat else lines.take (lines.length - (-limit).toNat)

/-- What is to be assembled, and how the code is laid out. -/
structure CodeRequest where
  variableName : Text := "sql"
  language : Language := .java
  sql : Text := []
  addComments : Bool := true
  formatCode : Bool := true
  deriving DecidableEq, Repr

/-- The outcome of writing code. -/
structure BuilderCode where
  code : Text := []
  lineCount : Nat := 0
  charCount : Nat := 0
  language : Language := .java
  variableName : Text := []
  success : Bool := false
  errorMessage : Option Text := none
  errorKind : Option FaultKind := none
  deriving DecidableEq, Repr

namespace BuilderCode

def failed (language : Language) (message : Text) (kind : Option FaultKind) : BuilderCode :=
  { language := language, errorMessage := some message, errorKind := kind }

def statistics (moment : Moment) (result : BuilderCode) : Text :=
  let dialect := result.language.dialect
  let facts : List Text :=
    ["코드 생성 통계:",
      "언어: " ++ dialect.displayName,
      "변수명: " ++ result.variableName,
      "코드 줄 수: " ++ ofNat result.lineCount,
      "문자 수: " ++ ofNat result.charCount,
      "생성 시각: " ++ moment.stamp,
      "상태: " ++ outcomeWord result.success]
  let fault : List Text :=
    match result.success, result.errorMessage with
    | false, some message => if message.isEmpty then [] else ["에러: " ++ message]
    | _, _ => []
  unlines ((facts ++ fault).map fun fact => dialect.commentMark ++ " " ++ fact)

/-- The beginning of the code between two comments. -/
def preview (limit : Int) (result : BuilderCode) : Text :=
  let dialect := result.language.dialect
  unlines ([dialect.commentMark ++ " " ++ dialect.fileExtension]
    ++ firstLines limit (lines result.code) ++ [dialect.commentMark ++ " end"])

def defaultPreviewLimit : Int := 10

def report (moment : Moment) (result : BuilderCode) : Text :=
  result.statistics moment ++ "\n\n" ++ result.code

end BuilderCode

namespace CodeRequest

def check (settings : Settings) (request : CodeRequest) : Verdict :=
  if isBlankText request.variableName then .refuse "변수명은 비어 있을 수 없습니다"
  else if !isVariableName request.variableName then
    .refuse "변수명 형식이 올바르지 않습니다. 문자, 숫자, 밑줄만 사용할 수 있으며 숫자로 시작할 수 없습니다"
  else if isBlankText request.sql then .refuse "SQL 문장은 비어 있을 수 없습니다"
  else if settings.maxSqlLength < request.sql.length then
    .refuse ("SQL 문장이 너무 깁니다. " ++ ofInt settings.maxSqlLength ++ "자 이내로 입력하세요")
  else .accept "설정 검증 통과"

/-- The lines of a statement that are not blank, trimmed. -/
def sqlLines (sql : Text) : List Text :=
  ((lines sql).map trim).filter fun line => !line.isEmpty

/-- What the slots of a language's templates hold for a variable. -/
def slotValue (dialect : Dialect) (variableName : Text) : Slot → Text
  | .builder => dialect.builderClass
  | .variableName => variableName
  | .finalVariable => "final" ++ capitalize variableName
  | .method => dialect.readMethod

/-- A call that appends a literal with the given content. -/
def appendCall (dialect : Dialect) (variableName content : Text) : Text :=
  variableName ++ "." ++ dialect.appendMethod ++ "(\"" ++ content ++ "\")" ++ dialect.statementEnd

/-- The lines of the code. -/
def codeLines (request : CodeRequest) : List Text :=
  let dialect := request.language.dialect
  let values := slotValue dialect request.variableName
  let comment : List Text :=
    if request.addComments then
      [dialect.commentMark ++ " " ++ dialect.displayName ++ " " ++ dialect.builderClass ++ " SQL"]
    else []
  let gap : List Text := if request.formatCode then [[]] else []
  let calls := (sqlLines request.sql).map fun line =>
    appendCall dialect request.variableName (escape line ++ " ")
  comment ++ [dialect.declaration.fill values] ++ gap ++ calls ++ gap
    ++ [dialect.finalization.fill values]

def render (request : CodeRequest) : Text :=
  unlines request.codeLines ++ "\n"

/-- Checks a request, then writes its code with the given step. -/
def generateWith (step : CodeRequest → Except Fault Text) (settings : Settings)
    (request : CodeRequest) : Logged BuilderCode := do
  let verdict := request.check settings
  if !verdict.isValid then
    Logged.warning .builder ("코드 생성 거부: " ++ verdict.message)
    return .failed request.language verdict.message verdict.kind
  match step request with
  | .error fault =>
      Logged.error .builder "코드 생성 중 에러"
      return .failed request.language
        (sanitize ("코드 생성 중 에러가 발생했습니다: " ++ fault.message)) fault.kind
  | .ok code =>
      return { code := code, lineCount := lineCount code, charCount := code.length,
               language := request.language, variableName := request.variableName, success := true }

def generate (settings : Settings) (request : CodeRequest) : Logged BuilderCode :=
  request.generateWith (fun request => .ok request.render) settings

def statistics (request : CodeRequest) : Text :=
  let sqlLines := lines request.sql
  unlines
    ["설정 통계:",
      "• 언어: " ++ request.language.dialect.displayName,
      "• 변수명: " ++ request.variableName,
      "• SQL 줄 수: " ++ ofNat sqlLines.length,
      "• 비어 있지 않은 줄 수: " ++ ofNat (sqlLines.countP fun line => !isBlankText line),
      "• 문자 수: " ++ ofNat request.sql.length,
      "• 주석 추가: " ++ yesNo request.addComments,
      "• 코드 정렬: " ++ yesNo request.formatCode]

/-- Advice on a request, if there is any. -/
def suggestions (request : CodeRequest) : List Text :=
  let naming : List Text :=
    if request.variableName.length < 3 then
      ["'sqlBuilder', 'queryBuilder' 처럼 더 구체적인 변수명을 권장합니다"]
    else []
  let length : List Text :=
    if 20 < (lines request.sql).length then
      ["SQL이 길어 여러 메서드나 설정 파일로 분리하는 것을 권장합니다"]
    else []
  let idiom : List Text :=
    match request.language with
    | .kotlin => ["Kotlin에서는 불변 변수 선언에 'val' 사용을 권장합니다"]
    | .csharp => ["C#에서는 타입 추론을 위해 'var' 사용을 권장합니다"]
    | _ => []
  naming ++ length ++ idiom

end CodeRequest

/-- A short piece of code that shows how a language is used. -/
def sampleCode (language : Language) : Text :=
  let dialect := language.dialect
  let values := CodeRequest.slotValue dialect "sql"
  unlines
    [dialect.commentMark ++ " " ++ dialect.displayName ++ " " ++ dialect.builderClass ++ " 예시",
      dialect.declaration.fill values,
      CodeRequest.appendCall dialect "sql" "SELECT * FROM users",
      CodeRequest.appendCall dialect "sql" " WHERE id = ?",
      dialect.finalization.fill values]

end SqlFanout.Builder
