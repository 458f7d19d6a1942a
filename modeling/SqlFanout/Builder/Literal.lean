import SqlFanout.Text.Basic

/-!
# String literals

Writing a text between double quotes puts a backslash before every backslash and every double quote, and
the content of a literal is freed from the backslashes that writing adds.
-/

namespace SqlFanout.Builder

def escapeChar (c : Char) : Text :=
  if c == '\\' || c == '\x22' then ['\\', c] else [c]

def escape (text : Text) : Text :=
  text.flatMap escapeChar

/-- Drops each backslash that stands before a backslash or a double quote. -/
def unescape : Text → Text
  | '\\' :: c :: rest =>
      if c == '\\' || c == '\x22' then c :: unescape rest else '\\' :: unescape (c :: rest)
  | c :: rest => c :: unescape rest
  | [] => []

end SqlFanout.Builder
