import SqlFanout.Text.Basic

/-!
# Delimited texts

A delimited text ends at the first mark that no backslash protects.  If there is none, nothing is read.
-/

namespace SqlFanout.Text

/-- The text up to its closing mark, with the backslashes in it, and what follows the mark.  A backslash
protects the character behind it, whatever that is. -/
def readDelimited? (close : Char) : Text → Option (Text × Text)
  | [] => none
  | [c] => if c == close then some ([], []) else none
  | c :: d :: rest =>
      if c == close then some ([], d :: rest)
      else if c == '\\' then
        (readDelimited? close rest).map fun (content, after) => (c :: d :: content, after)
      else (readDelimited? close (d :: rest)).map fun (content, after) => (c :: content, after)

end SqlFanout.Text
