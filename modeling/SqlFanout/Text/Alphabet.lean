import SqlFanout.Text.Table.Letter
import SqlFanout.Text.Table.Number
import SqlFanout.Text.Table.Printable

/-!
# Character classes

Letters, digits, word characters and printable characters.  Each class is given by a closed formula
on ASCII and by a table beyond it.
-/

namespace SqlFanout.Text

def isAscii (c : Char) : Bool :=
  c.toNat < 0x80

def isAsciiDigit (c : Char) : Bool :=
  '0' ≤ c && c ≤ '9'

def isAsciiLetter (c : Char) : Bool :=
  ('a' ≤ c && c ≤ 'z') || ('A' ≤ c && c ≤ 'Z')

def isLetter (c : Char) : Bool :=
  if isAscii c then isAsciiLetter c else inRanges c.toNat Table.letters

/-- Letters and every character with a numeric value. -/
def isAlphanumeric (c : Char) : Bool :=
  if isAscii c then isAsciiLetter c || isAsciiDigit c
  else inRanges c.toNat Table.letters || inRanges c.toNat Table.numbers

/-- The characters that words are made of. -/
def isWord (c : Char) : Bool :=
  isAlphanumeric c || c == '_'

/-- The value of a decimal digit of any script. -/
def decimalValue? (c : Char) : Option Nat :=
  if isAscii c then
    if isAsciiDigit c then some (c.toNat - '0'.toNat) else none
  else
    (Table.decimalZeros.find? fun start => start ≤ c.toNat && c.toNat < start + 10).map
      (c.toNat - ·)

def isDecimal (c : Char) : Bool :=
  (decimalValue? c).isSome

/-- Decimal digits, and digits such as superscripts that no numeral is written with. -/
def isDigit (c : Char) : Bool :=
  isDecimal c || inRanges c.toNat Table.digitMarks

def isPrintable (c : Char) : Bool :=
  if isAscii c then 0x20 ≤ c.toNat && c.toNat < 0x7f else inRanges c.toNat Table.printables

/-- Whether a character that may be missing is a word character; a missing one is not. -/
def isWordAt : Option Char → Bool
  | some c => isWord c
  | none => false

/-- A place between two characters is a word boundary if exactly one of them is a word character;
beyond the ends of the text there is none. -/
def isBoundary (before after : Option Char) : Bool :=
  isWordAt before != isWordAt after

end SqlFanout.Text
