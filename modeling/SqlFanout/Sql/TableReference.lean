import SqlFanout.Sql.Word
import SqlFanout.Text.Numeral
import SqlFanout.Text.Scan

/-!
# References to tables

A table is referred to by a name behind the keywords of a table clause, with an optional schema before
it.  References are listed, and renamed, in a leftmost scan of the text.
-/

namespace SqlFanout.Sql

open Text

structure TableReference where
  schema : Option Text
  table : Text
  deriving DecidableEq, Repr

/-- Keywords that are never taken for the name of a table. -/
def reservedWords : List Text :=
  (["select", "from", "where", "join", "left", "right", "inner", "outer",
    "group", "by", "order", "having", "limit", "offset", "union", "all",
    "insert", "update", "delete", "into", "set", "values", "create", "drop",
    "table", "index", "view", "database", "schema", "user", "grant", "revoke",
    "alter", "truncate", "explain", "describe", "show", "use", "commit", "rollback"]
    : List String).map String.toList

namespace TableReference

/-- A bare keyword in the place of a name refers to no table. -/
def isReserved (reference : TableReference) : Bool :=
  reference.schema.isNone && reservedWords.contains (lower reference.table)

/-- Reads a name, or a schema and a name, that ends at a word boundary.  A second name that does not
end there is left out. -/
def read? (text : Text) : Option (TableReference × Text) :=
  match takeName? text with
  | none => none
  | some (first, rest) =>
      let plain := if isWordAt rest.head? then none else some (⟨none, first⟩, rest)
      match rest with
      | '.' :: more =>
          match takeName? more with
          | some (second, after) =>
              if isWordAt after.head? then plain else some (⟨some first, second⟩, after)
          | none => plain
      | _ => plain

/-- Finds a table clause and the reference behind it. -/
def finder : Finder TableReference := fun before text =>
  match afterTableClause? before text with
  | none => none
  | some rest =>
      match afterBlanks? rest with
      | none => none
      | some body => read? body

/-- The references of a text that are not bare keywords, in order. -/
def all (sql : Text) : List TableReference :=
  (finder.findAll sql).filter fun reference => !reference.isReserved

end TableReference

/-- The names of the tables that a text refers to, each once and in order of first appearance. -/
def tableNames (sql : Text) : List Text :=
  (TableReference.finder.findAll sql).foldl
    (fun names reference =>
      if reference.isReserved || names.contains reference.table then names
      else names ++ [reference.table])
    []

/-- What follows an occurrence of a name that ends at a word boundary and before no dot. -/
def afterName? (name : Text) (before : Option Char) (text : Text) : Option Text :=
  match afterFolded? name text with
  | none => none
  | some rest =>
      if isBoundary (lastOr before (text.take name.length)) rest.head? && rest.head? != some '.' then
        some rest
      else none

/-- What follows a name, with a schema before it if that is possible and without one otherwise. -/
def afterQualified? (name : Text) (before : Option Char) (text : Text) : Option Text :=
  match takeName? text with
  | some (_, '.' :: more) =>
      match afterName? name (some '.') more with
      | some rest => some rest
      | none => afterName? name before text
  | _ => afterName? name before text

/-- What follows blanks and a name; as many blanks as possible are passed over. -/
def afterBlanksAndName? (name : Text) : Text → Option Text
  | [] => none
  | c :: rest =>
      if isBlank c then
        match afterBlanksAndName? name rest with
        | some after => some after
        | none => afterQualified? name (some c) rest
      else none

/-- Finds a reference to a table of the given name; the value is the text before that name. -/
def referenceFinder (name : Text) : Finder Text := fun before text =>
  match afterTableClause? before text with
  | none => none
  | some rest =>
      match afterBlanksAndName? name rest with
      | none => none
      | some after => some (text.take (text.length - after.length - name.length), after)

/-- Replaces the name in every reference to a table. -/
def renameTable (old new : Text) (sql : Text) : Text :=
  (referenceFinder old).substitute (fun leading => leading ++ new) sql

/-- Appends a suffix to the name in every reference to one of the tables, table by table. -/
def renameTables (tables : List Text) (suffix : Text) (sql : Text) : Text :=
  tables.foldl (fun text table => renameTable table (table ++ suffix) text) sql

end SqlFanout.Sql
