import SqlFanout.Builder.Code
import SqlFanout.Sql.Shape
import SqlFanout.Text.Delimited

/-!
# Recovering a statement from code

The literals that code appends to a builder are collected line by line and joined to a statement.  If
the language of the code is not given it is guessed, which decides how builders are declared.
-/

namespace SqlFanout.Builder

open Text

/-- The outcome of recovering a statement. -/
structure RecoveredSql where
  sql : Text := []
  fragments : List Text := []
  language : Language := .java
  variableNames : List Text := []
  success : Bool := false
  errorMessage : Option Text := none
  errorKind : Option FaultKind := none
  deriving DecidableEq, Repr

/-- The language that code seems to be written in; the first rule that applies decides. -/
def guessLanguage (code : Text) : Language :=
  let holds (word : Text) : Bool := occursIn word code
  if holds "StringBuilder" && holds "Append(" then .csharp
  else if holds "StringBuilder" && holds "append(" then .kotlin
  else if holds "StringBuffer" then .java
  else if holds "val " && holds "StringBuilder" then .scala
  else if holds "def " && holds "StringBuilder" then .groovy
  else .java

def mentionsBuilder (code : Text) : Bool :=
  occursIn "StringBuffer" code || occursIn "StringBuilder" code

/-- The argument of a call and what follows the call, if the argument is a single literal. -/
def readArgument? (text : Text) : Option (Text × Text) :=
  match trimLeft text with
  | [] => none
  | quote :: body =>
      if quote == '\x22' || quote == '\x27' then
        match readDelimited? quote body with
        | none => none
        | some (content, rest) =>
            match trimLeft rest with
            | ')' :: after => some (content, after)
            | _ => none
      else none

/-- Finds a call of the appending method, in any case; the value is the content of its literal. -/
def callFinder (method : Text) : Finder Text := fun _ text =>
  match text with
  | '.' :: name =>
      match afterFolded? method name with
      | none => none
      | some rest =>
          match trimLeft rest with
          | '(' :: argument => readArgument? argument
          | _ => none
  | _ => none

/-- The literals that code appends, freed from escapes, as far as they are not blank. -/
def appendedTexts (language : Language) (code : Text) : List Text :=
  let calls := (lines code).flatMap (callFinder language.dialect.appendMethod).findAll
  (calls.map unescape).filter fun fragment => !isBlankText fragment

/-- The names of the builders that code declares, each once; a line declares at most one. -/
def declaredNames (language : Language) (code : Text) : List Text :=
  let names := (lines code).filterMap (language.dialect.declarationShape.finder.first? none)
  names.eraseDups

def joinFragments (fragments : List Text) : Text :=
  trim (join " " fragments)

namespace RecoveredSql

def failed (language : Language) (message : Text) (kind : Option FaultKind) : RecoveredSql :=
  { language := language, errorMessage := some message, errorKind := kind }

/-- The fragments of code that is not blank, collected by the given step; there must be one. -/
def fragmentsOf (step : Language → Text → Except Fault (List Text)) (language : Language)
    (code : Text) : Except Fault (List Text) :=
  if isBlankText code then .error (.parse "코드는 비어 있을 수 없습니다")
  else
    match step language code with
    | .error fault => .error fault
    | .ok [] => .error (.parse "유효한 SQL 문장을 찾지 못했습니다")
    | .ok fragments => .ok fragments

/-- Recovers a statement from code in a known language. -/
def ofCodeWith (step : Language → Text → Except Fault (List Text)) (language : Language)
    (code : Text) : Logged RecoveredSql := do
  match fragmentsOf step language code with
  | .error fault =>
      if fault.isParse then
        Logged.warning .recovery ("SQL 역변환 실패: " ++ fault.message)
        return .failed language (sanitize fault.message) fault.kind
      else
        Logged.error .recovery "SQL 역변환 중 에러"
        return .failed language (sanitize ("SQL 역변환 중 에러가 발생했습니다: " ++ fault.message))
          fault.kind
  | .ok fragments =>
      Logged.debug .recovery
        ("SQL 조각 " ++ ofNat fragments.length ++ "개 추출 (" ++ language.dialect.displayName ++ ")")
      return { sql := joinFragments fragments, fragments := fragments, language := language,
               variableNames := declaredNames language code, success := true }

/-- The literals of the code itself as the collecting step. -/
def collect (language : Language) (code : Text) : Except Fault (List Text) :=
  .ok (appendedTexts language code)

def ofCode (language : Language) (code : Text) : Logged RecoveredSql :=
  ofCodeWith collect language code

/-- Recovers a statement, guessing the language of the code if none is given. -/
def recoverWith (step : Language → Text → Except Fault (List Text)) (language : Option Language)
    (code : Text) : Logged RecoveredSql :=
  ofCodeWith step (language.getD (guessLanguage code)) code

def recover (language : Option Language) (code : Text) : Logged RecoveredSql :=
  recoverWith collect language code

/-- The keyword that the statement starts with. -/
def statementType (result : RecoveredSql) : Text :=
  let raised := upper (trim result.sql)
  (Sql.statementKeywords.find? (·.isPrefixOf raised)).getD "UNKNOWN"

/-- Whether a word occurs in the statement, in any case. -/
def mentions (result : RecoveredSql) (word : Text) : Bool :=
  occursIn (lower word) (lower result.sql)

/-- The first lines of the statement and the number of the others. -/
def preview (limit : Int) (result : RecoveredSql) : Text :=
  let all := lines result.sql
  let more : List Text :=
    if limit < all.length then ["-- ... (" ++ ofInt (all.length - limit) ++ "줄 더 있음)"] else []
  unlines ("-- 추출된 SQL 미리보기:" :: (firstLines limit all ++ more))

def defaultPreviewLimit : Int := 5

def fragmentLines (number : Nat) : List Text → List Text
  | [] => []
  | fragment :: fragments =>
      ("-- 조각 " ++ ofNat number ++ ": \"" ++ fragment ++ "\"")
        :: fragmentLines (number + 1) fragments

/-- The fragments, numbered from one. -/
def fragmentsDetail (result : RecoveredSql) : Text :=
  unlines ("-- SQL 조각 상세:" :: fragmentLines 1 result.fragments)

def report (result : RecoveredSql) : Text :=
  let head : List Text :=
    ["-- 언어: " ++ result.language.dialect.displayName,
      "-- SQL 조각 수: " ++ ofNat result.fragments.length,
      "-- 상태: " ++ outcomeWord result.success]
  let body : List Text :=
    if result.success then
      let detail : List Text :=
        if 1 < result.fragments.length then ["", result.fragmentsDetail] else []
      result.sql :: detail
    else ["-- 에러: " ++ messageOrNone result.errorMessage]
  unlines (head ++ body)

def statistics (result : RecoveredSql) : Text :=
  let head : List Text :=
    ["// SQL 역변환 통계:",
      "// 언어: " ++ result.language.dialect.displayName,
      "// SQL 조각 수: " ++ ofNat result.fragments.length,
      "// 전체 문자 수: " ++ ofNat result.sql.length,
      "// 상태: " ++ outcomeWord result.success]
  let fault : List Text :=
    match result.success, result.errorMessage with
    | false, some message => if message.isEmpty then [] else ["// 에러: " ++ message]
    | _, _ => []
  unlines (head ++ fault)

end RecoveredSql

end SqlFanout.Builder
