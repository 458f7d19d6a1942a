import SqlFanout.Sql.Nesting
import SqlFanout.Sql.Word

/-!
# The select clause

A statement is cut behind its first `SELECT` and before the first `FROM` at top level that follows.
The text between them is the list of fields, which is cut at its top-level commas.
-/

namespace SqlFanout.Sql

open Text

/-- Cuts a text behind its first `SELECT`. -/
def cutAfterSelect? (before : Option Char) : Text → Option (Text × Text)
  | [] => none
  | c :: rest =>
      match afterWord? "SELECT" before (c :: rest) with
      | some tail => some ((c :: rest).take ((c :: rest).length - tail.length), tail)
      | none => (cutAfterSelect? (some c) rest).map fun (head, tail) => (c :: head, tail)

/-- Cuts a text before its first `FROM` at top level. -/
def cutBeforeFrom? (nesting : Nesting) (before : Option Char) : Text → Option (Text × Text)
  | [] => none
  | c :: rest =>
      if nesting.isTop && (afterWord? "FROM" before (c :: rest)).isSome then some ([], c :: rest)
      else
        (cutBeforeFrom? (nesting.step c) (some c) rest).map fun (body, tail) => (c :: body, tail)

def hasSelect (sql : Text) : Bool :=
  (cutAfterSelect? none sql).isSome

/-- A statement in three parts: up to `SELECT`, the list of fields, and from `FROM` on. -/
structure SelectClause where
  head : Text
  fields : Text
  tail : Text
  deriving DecidableEq, Repr

namespace SelectClause

def locate? (sql : Text) : Option SelectClause :=
  match cutAfterSelect? none sql with
  | none => none
  | some (head, rest) =>
      match cutBeforeFrom? (Nesting.top.after head) head.getLast? rest with
      | none => none
      | some (fields, tail) => some ⟨head, fields, tail⟩

/-- Where the list of fields starts and ends. -/
def offsets (clause : SelectClause) : Nat × Nat :=
  (clause.head.length, clause.head.length + clause.fields.length)

end SelectClause

/-- The pieces of a text between its top-level commas. -/
def cutAtCommas (nesting : Nesting) : Text → List Text
  | [] => [[]]
  | c :: rest =>
      let pieces := cutAtCommas (nesting.step c) rest
      if c == ',' && nesting.isTop then [] :: pieces
      else
        match pieces with
        | [] => [[c]]
        | piece :: others => (c :: piece) :: others

/-- The trimmed pieces between top-level commas that are not blank. -/
def splitFields (clause : Text) : List Text :=
  ((cutAtCommas .top clause).map trim).filter fun field => !field.isEmpty

end SqlFanout.Sql
