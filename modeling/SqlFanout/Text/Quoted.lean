import SqlFanout.Text.Numeral

/-!
# Quoted texts

The form in which messages show a text: between quotes, with the characters that cannot be printed
written as escapes.  Single quotes are used unless the text holds single quotes and no double ones.
-/

namespace SqlFanout.Text

/-- One character between the given quotes. -/
def quotedChar (quote c : Char) : Text :=
  if c == quote || c == '\\' then ['\\', c]
  else if c == '\n' then ['\\', 'n']
  else if c == '\r' then ['\\', 'r']
  else if c == '\t' then ['\\', 't']
  else if isPrintable c then [c]
  else if c.toNat < 0x100 then ['\\', 'x'] ++ hex 2 c.toNat
  else if c.toNat < 0x10000 then ['\\', 'u'] ++ hex 4 c.toNat
  else ['\\', 'U'] ++ hex 8 c.toNat

def quoted (text : Text) : Text :=
  let quote := if text.contains '\x27' && !text.contains '\x22' then '\x22' else '\x27'
  [quote] ++ text.flatMap (quotedChar quote) ++ [quote]

/-- Texts in square brackets, quoted and separated by commas. -/
def quotedList (texts : List Text) : Text :=
  "[" ++ join ", " (texts.map quoted) ++ "]"

end SqlFanout.Text
