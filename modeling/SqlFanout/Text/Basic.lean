/-!
# Text

Everything that is read or written is a `Text`, a list of characters, so that scanners recurse on it
directly and every statement about them is a statement about lists.  String literals are accepted
wherever a `Text` is expected.
-/

namespace SqlFanout

abbrev Text := List Char

instance : Coe String Text := ⟨String.toList⟩

namespace Text

/-- The parts in order, with the separator between neighbours. -/
def join (separator : Text) (parts : List Text) : Text :=
  separator.intercalate parts

/-- The parts as lines, separated by line feeds. -/
def unlines (parts : List Text) : Text :=
  join "\n" parts

/-- The pieces between the occurrences of a mark; there is one more of them than marks. -/
def cutAt (mark : Char) : Text → List Text
  | [] => [[]]
  | c :: rest =>
      if c = mark then [] :: cutAt mark rest
      else
        match cutAt mark rest with
        | [] => [[c]]
        | piece :: pieces => (c :: piece) :: pieces

/-- The pieces between line feeds. -/
def lines (text : Text) : List Text :=
  cutAt '\n' text

/-- The texts before and after the last occurrence of a mark. -/
def splitAtLast (mark : Char) : Text → Option (Text × Text)
  | [] => none
  | c :: rest =>
      match splitAtLast mark rest with
      | some (before, after) => some (c :: before, after)
      | none => if c = mark then some ([], rest) else none

/-- What follows the last occurrence of a mark, or the whole text if there is none. -/
def afterLast (mark : Char) (text : Text) : Text :=
  match splitAtLast mark text with
  | some (_, after) => after
  | none => text

/-- Removes the longest run at the end whose characters all satisfy the predicate. -/
def dropTrailing (p : Char → Bool) (text : Text) : Text :=
  (text.reverse.dropWhile p).reverse

/-- Whether a text occurs in another one, at any position. -/
def occursIn (needle : Text) : Text → Bool
  | [] => needle.isEmpty
  | c :: rest => needle.isPrefixOf (c :: rest) || occursIn needle rest

/-- The text without a given beginning, if it begins that way. -/
def afterStart? : Text → Text → Option Text
  | [], text => some text
  | _ :: _, [] => none
  | p :: start, c :: rest => if p = c then afterStart? start rest else none

/-- The last character, or what stood before the text if it is empty. -/
def lastOr (before : Option Char) (text : Text) : Option Char :=
  match text.getLast? with
  | some c => some c
  | none => before

end Text

end SqlFanout
