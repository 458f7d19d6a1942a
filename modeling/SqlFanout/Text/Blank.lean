import SqlFanout.Text.Basic

/-!
# Blank characters

White space is the Unicode property of that name.  A character is blank if it is white space or one
of the four ASCII separators `U+001C`–`U+001F`; trimming removes blanks from the ends of a text.
-/

namespace SqlFanout.Text

def isWhiteSpace (c : Char) : Bool :=
  let code := c.toNat
  if code < 0x80 then code == 0x20 || (9 ≤ code && code ≤ 13)
  else
    code == 0x85 || code == 0xa0 || code == 0x1680 || (0x2000 ≤ code && code ≤ 0x200a)
      || code == 0x2028 || code == 0x2029 || code == 0x202f || code == 0x205f || code == 0x3000

def isBlank (c : Char) : Bool :=
  isWhiteSpace c || (0x1c ≤ c.toNat && c.toNat ≤ 0x1f)

/-- A text without a character that is not blank; the empty text is one. -/
def isBlankText (text : Text) : Bool :=
  text.all isBlank

def trimLeft (text : Text) : Text :=
  text.dropWhile isBlank

def trimRight (text : Text) : Text :=
  dropTrailing isBlank text

/-- Removes the blanks at both ends. -/
def trim (text : Text) : Text :=
  trimRight (trimLeft text)

/-- The text after one blank or more, if it begins with one. -/
def afterBlanks? : Text → Option Text
  | [] => none
  | c :: rest => if isBlank c then some (trimLeft rest) else none

end SqlFanout.Text
