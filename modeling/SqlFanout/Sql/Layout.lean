import SqlFanout.Journal
import SqlFanout.Text.Blank
import SqlFanout.Text.Scan

/-!
# Layout of a statement

Tidying leaves single spaces between words, a space behind every comma, one before an opening and one
behind a closing parenthesis.  A formatter from outside lays statements out in full; where it gives up,
tidying takes its place.
-/

namespace SqlFanout.Sql

open Text

/-- Finds a run of blanks. -/
def blanksFinder : Finder Unit := fun _ text =>
  (afterBlanks? text).map fun rest => ((), rest)

/-- Finds a mark with the blanks around it. -/
def markFinder (mark : Char) : Finder Unit := fun _ text =>
  match trimLeft text with
  | c :: rest => if c == mark then some ((), trimLeft rest) else none
  | [] => none

def spaceMark (mark : Char) (spaced : Text) (sql : Text) : Text :=
  (markFinder mark).substitute (fun _ => spaced) sql

def tidy (sql : Text) : Text :=
  let single := blanksFinder.substitute (fun _ => " ") sql
  trim (spaceMark ')' ") " (spaceMark '(' " (" (spaceMark ',' ", " single)))

/-- What a formatter does with a statement: lays it out as statements, rejects it, or breaks down. -/
inductive Formatting (ε : Type) where
  | statements (texts : List Text)
  | rejected (message : Text)
  | broken (error : ε)

/-- Formats a statement of the dialect that is named last. -/
abbrev Formatter (ε : Type) := Text → Text → Formatting ε

/-- The layout of the formatter, or the tidied statement if it rejects or drops the statement. -/
def prettify {ε : Type} (formatter : Formatter ε) (dialect sql : Text) :
    Logged (Except ε Text) := do
  match formatter sql dialect with
  | .broken error => return .error error
  | .rejected message =>
      Logged.debug .recovery ("sqlglot 포맷 실패, 기본 포맷 사용: " ++ message)
      return .ok (tidy sql)
  | .statements [] => return .ok (tidy sql)
  | .statements texts => return .ok (join ";\n" texts)

end SqlFanout.Sql
