import SqlFanout.Builder.Language
import SqlFanout.Verdict

/-!
# Reviewing code

A rough review of builder code: a few words have to occur in it, and a few must not, depending on the
language.
-/

namespace SqlFanout.Builder

open Text

/-- A complaint, if a condition holds. -/
def complainIf (condition : Bool) (complaint : Text) : List Text :=
  if condition then [complaint] else []

/-- The complaint about a line that needs a semicolon and does not end in one. -/
def missingSemicolon (line : Text) : List Text :=
  let trimmed := trim line
  let marks : List Text := ["StringBuffer", "append", "String final"]
  if ("//" : Text).isPrefixOf trimmed || trimmed.isEmpty then []
  else
    complainIf (marks.any (occursIn · trimmed) && trimmed.getLast? != some ';')
      ("세미콜론이 없습니다: " ++ trimmed)

def complaints (language : Language) (code : Text) : List Text :=
  let holds (word : Text) : Bool := occursIn word code
  match language with
  | .java =>
      complainIf (!holds "StringBuffer" && !holds "StringBuilder")
          "StringBuffer 또는 StringBuilder 선언이 없습니다"
        ++ complainIf (!holds "new ") "new 키워드가 없습니다"
        ++ (lines code).flatMap missingSemicolon
  | .csharp =>
      complainIf (!holds "StringBuilder") "StringBuilder 선언이 없습니다"
        ++ complainIf (holds ".append(") "C#에서는 append 대신 Append를 사용해야 합니다"
        ++ complainIf (holds "String final") "C#에서는 String 대신 string을 사용해야 합니다"
  | .kotlin =>
      complainIf (!holds "val ") "val 키워드가 없습니다"
        ++ complainIf (holds "new ") "Kotlin에서는 new 키워드를 사용하지 않습니다"
        ++ complainIf (holds ";") "Kotlin에서는 보통 세미콜론을 사용하지 않습니다"
  | .scala =>
      complainIf (!holds "val ") "val 키워드가 없습니다"
        ++ complainIf (!holds "new ") "Scala에서는 new 키워드가 필요합니다"
  | .groovy => complainIf (!holds "def ") "def 키워드가 없습니다"

def review (language : Language) (code : Text) : Verdict :=
  match complaints language code with
  | [] => .accept (language.dialect.displayName ++ " 문법 검사 통과")
  | found => .malformed (language.dialect.displayName ++ " 문법 오류: " ++ join ", " found)

end SqlFanout.Builder
