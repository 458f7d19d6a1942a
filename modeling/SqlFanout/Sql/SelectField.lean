import SqlFanout.Fault
import SqlFanout.Journal
import SqlFanout.Moment
import SqlFanout.Sql.SelectClause
import SqlFanout.Text.Quoted

/-!
# Fields of a select list

Each field has an expression and an alias.  The alias is the one behind the last top-level `AS`, or is
derived from the expression; a number keeps the aliases of one list apart.
-/

namespace SqlFanout.Sql

open Text

structure SelectField where
  expression : Text
  label : Text
  isExplicit : Bool := false
  deriving DecidableEq, Repr

/-- What follows the word `AS` between blanks, at the beginning of a text. -/
def afterAs? (text : Text) : Option Text :=
  match afterBlanks? text with
  | none => none
  | some word =>
      match afterFolded? "AS" word with
      | none => none
      | some rest => afterBlanks? rest

/-- Cuts a text at the last `AS` that stands at top level.  The first `skip` characters belong to an
`AS` that has been met. -/
def cutAtLastAs? : Nat → Nesting → Text → Option (Text × Text)
  | _, _, [] => none
  | skip + 1, nesting, c :: rest =>
      (cutAtLastAs? skip (nesting.step c) rest).map fun (left, right) => (c :: left, right)
  | 0, nesting, c :: rest =>
      match afterAs? (c :: rest) with
      | some after =>
          let size := (c :: rest).length - after.length
          match cutAtLastAs? (size - 1) (nesting.step c) rest with
          | some (left, right) => some (c :: left, right)
          | none => if nesting.isTop then some ([], after) else none
      | none =>
          (cutAtLastAs? 0 (nesting.step c) rest).map fun (left, right) => (c :: left, right)

/-- Functions whose calls have a fixed alias. -/
def aggregateNames : List Text :=
  ["COUNT", "SUM", "AVG", "MAX", "MIN"]

/-- The name of the aggregate function that an expression starts by calling, as it is spelled. -/
def leadingAggregate? (expression : Text) : Option Text :=
  aggregateNames.findSome? fun name =>
    match afterFolded? name expression with
    | some rest =>
        if (trimLeft rest).head? == some '(' then some (expression.take name.length) else none
    | none => none

/-- The alias of an expression that has none: a fixed one for aggregates, one made from the clock for
other calls, and else the last part of a dotted name. -/
def deriveAlias (millis : Nat) (expression : Text) : Text :=
  match leadingAggregate? expression with
  | some name => lower name ++ "_result"
  | none =>
      if expression.contains '(' then "field_" ++ ofNat (millis % 10000)
      else afterLast '.' expression

def numberedAlias (base : Text) (number : Nat) : Text :=
  base ++ "_" ++ ofNat number

/-- The base itself if it is free, and else the base with the least number that makes it free.  One of
the numbers up to the count of used aliases and one more is free. -/
def uniqueAlias (base : Text) (used : List Text) : Text :=
  if used.contains base then
    let numbers := (List.range (used.length + 1)).map (· + 1)
    let free := numbers.find? fun number => !used.contains (numberedAlias base number)
    numberedAlias base (free.getD (used.length + 1))
  else base

/-- Splits a clause into expression and wanted alias. -/
def splitAlias (millis : Nat) (clause : Text) : SelectField :=
  match cutAtLastAs? 0 .top clause with
  | some (left, right) => ⟨trim left, trim right, true⟩
  | none => ⟨trim clause, deriveAlias millis (trim clause), false⟩

/-- Reads one field and adds its alias to those in use. -/
def readField (millis : Nat) (used : List Text) (clause : Text) : SelectField × List Text :=
  let wanted := splitAlias millis clause
  let label := uniqueAlias wanted.label used
  ({ wanted with label := label }, used ++ [label])

/-- Reads fields one after another, each at a reading of the clock of its own. -/
def readFields (clock : Clock) (used : List Text) : List Text → List SelectField
  | [] => []
  | clause :: clauses =>
      let (field, extended) := readField (clock 0) used clause
      field :: readFields clock.later extended clauses

/-- Clauses that stand for all columns. -/
def isWildcard (clause : Text) : Bool :=
  clause == ['*'] || (".*" : Text).isSuffixOf clause

/-- The fields of the select list of a statement. -/
def selectFields (clock : Clock) (sql : Text) : Except Fault (List SelectField) :=
  match SelectClause.locate? (trim sql) with
  | none => .error (.parse "SQL에서 SELECT 필드를 추출할 수 없습니다")
  | some clause =>
      match splitFields (trim clause.fields) with
      | [] => .error (.parse "SQL에서 SELECT 필드를 추출할 수 없습니다")
      | clauses =>
          if clauses.any isWildcard then
            .error (.configuration "SELECT * 는 지원하지 않습니다. 필드명을 명시하세요")
          else .ok (readFields clock [] clauses)

/-- The fields of a select list, with a record of their aliases. -/
def readSelectList (clock : Clock) (sql : Text) : Logged (Except Fault (List SelectField)) := do
  match selectFields clock sql with
  | .error fault => return .error fault
  | .ok fields =>
      Logged.debug .selectList
        ("SELECT 필드 " ++ ofNat fields.length ++ "개 파싱: " ++ quotedList (fields.map (·.label)))
      return .ok fields

/-- A field with its alias spelled out. -/
def SelectField.render (field : SelectField) : Text :=
  field.expression ++ " AS " ++ field.label

/-- Puts a list of fields in the place of the one that a statement has. -/
def replaceFields (fields : List SelectField) (sql : Text) : Text :=
  match SelectClause.locate? (trim sql) with
  | none => sql
  | some clause =>
      clause.head ++ " " ++ join ", " (fields.map (·.render)) ++ " " ++ clause.tail

end SqlFanout.Sql
