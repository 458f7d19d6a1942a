import SqlFanout.Text.Basic

/-!
# Line breaks

A line may end in any of the Unicode line boundaries; a carriage return with the line feed after it
is one boundary.  Files are read with both kinds of carriage return turned into line feeds.
-/

namespace SqlFanout.Text

def isLineBreak (c : Char) : Bool :=
  let code := c.toNat
  (10 ≤ code && code ≤ 13) || (0x1c ≤ code && code ≤ 0x1e) || code == 0x85 || code == 0x2028
    || code == 0x2029

/-- Counts lines in what follows; `started` tells whether the current line has a character. -/
def lineCountFrom (started : Bool) : Text → Nat
  | [] => if started then 1 else 0
  | '\r' :: '\n' :: rest => 1 + lineCountFrom false rest
  | c :: rest =>
      if isLineBreak c then 1 + lineCountFrom false rest else lineCountFrom true rest

/-- The number of lines; a boundary at the very end opens no further line. -/
def lineCount (text : Text) : Nat :=
  lineCountFrom false text

/-- Writes every line end as a line feed. -/
def normalizeNewlines : Text → Text
  | [] => []
  | '\r' :: '\n' :: rest => '\n' :: normalizeNewlines rest
  | '\r' :: rest => '\n' :: normalizeNewlines rest
  | c :: rest => c :: normalizeNewlines rest

end SqlFanout.Text
