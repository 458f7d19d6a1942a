import SqlFanout.Text.Blank
import SqlFanout.Text.Case

/-!
# Words of SQL

Keywords are recognised without regard to case and between word boundaries; names are made of Latin
letters, ASCII digits and underscores.  No quoting or commenting rule takes part: a text is SQL only
as far as these recognisers look.
-/

namespace SqlFanout.Sql

open Text

/-- What follows a word that stands between word boundaries at the beginning of a text. -/
def afterWord? (word : Text) (before : Option Char) (text : Text) : Option Text :=
  if isWordAt before then none
  else
    match afterFolded? word text with
    | some rest => if isWordAt rest.head? then none else some rest
    | none => none

/-- What follows words with blanks between them. -/
def afterPhrase? : List Text → Text → Option Text
  | [], text => some text
  | [word], text => afterFolded? word text
  | word :: words, text =>
      match afterFolded? word text with
      | none => none
      | some rest =>
          match afterBlanks? rest with
          | none => none
          | some next => afterPhrase? words next

/-- The clauses that a table name follows. -/
def tableClauses : List (List Text) :=
  [["FROM"], ["JOIN"], ["UPDATE"], ["INSERT", "INTO"], ["DELETE", "FROM"]]

/-- What follows the keywords of a table clause that starts at a word boundary. -/
def afterTableClause? (before : Option Char) (text : Text) : Option Text :=
  if isWordAt before then none else tableClauses.findSome? fun words => afterPhrase? words text

/-- A Latin letter, up to case, or an underscore. -/
def isNameStart (c : Char) : Bool :=
  ('a' ≤ fold c && fold c ≤ 'z') || c == '_'

def isNameChar (c : Char) : Bool :=
  isNameStart c || isAsciiDigit c

/-- The longest name at the beginning of a text, and the rest. -/
def takeName? : Text → Option (Text × Text)
  | [] => none
  | c :: rest =>
      if isNameStart c then some (c :: rest.takeWhile isNameChar, rest.dropWhile isNameChar)
      else none

end SqlFanout.Sql
