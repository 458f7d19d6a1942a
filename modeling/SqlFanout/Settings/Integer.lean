import SqlFanout.Text.Numeral

/-!
# Integers of settings

Integers are read more liberally than they are written.  White space around a numeral, a sign, zeros at
its beginning, a fraction of zeros and single underscores within it do not count, and what is left has to
be a plain numeral.  Among zeros at the beginning underscores stand freely, and a minus sign may follow
them.
-/

namespace SqlFanout.Settings

open Text

def isNonzeroDigit (c : Char) : Bool :=
  '1' ≤ c && c ≤ '9'

/-- What counts of a numeral behind a zero at its beginning.  The character passed over last is given; it
counts if nothing or a point follows it. -/
def afterZeros? (last : Char) : Text → Option Text
  | [] => some [last]
  | c :: rest =>
      if c == '0' || c == '_' then afterZeros? c rest
      else if isNonzeroDigit c || c == '-' then some (c :: rest)
      else if c == '.' then some (last :: c :: rest)
      else none

/-- What counts of a numeral, which has to start with a digit. -/
def significant? : Text → Option Text
  | [] => none
  | c :: rest =>
      if c == '0' then afterZeros? c rest
      else if isNonzeroDigit c then some (c :: rest)
      else none

/-- The text before the point, if zeros and nothing else follow the point. -/
def withoutFraction (text : Text) : Text :=
  match text.dropWhile (· != '.') with
  | _ :: digit :: digits =>
      if (digit :: digits).all (· == '0') then text.takeWhile (· != '.') else text
  | _ => text

/-- The text without its underscores, if they all stand alone and inside of it. -/
def withoutUnderscores (text : Text) : Text :=
  if text.head? == some '_' || text.getLast? == some '_' || occursIn "__" text then text
  else text.filter (· != '_')

/-- Reads digits that do not start with a zero, or a single zero. -/
def readDigits? : Text → Option Nat
  | [] => none
  | c :: rest =>
      if (c == '0' && rest.isEmpty) || (isNonzeroDigit c && rest.all isAsciiDigit) then
        some ((c :: rest).foldl (fun total digit => total * 10 + (digit.toNat - '0'.toNat)) 0)
      else none

def readPlain? : Text → Option Int
  | '-' :: digits => (readDigits? digits).map fun n => -Int.ofNat n
  | digits => (readDigits? digits).map Int.ofNat

/-- A numeral without what does not count. -/
def plain? (text : Text) : Option Text :=
  (significant? text).map fun digits => withoutUnderscores (withoutFraction digits)

def readInteger? (text : Text) : Option Int :=
  match trimWhiteSpace text with
  | '+' :: body => (plain? body).bind readPlain?
  | '-' :: body => (plain? body).bind fun digits => readPlain? ('-' :: digits)
  | body => (plain? body).bind readPlain?

end SqlFanout.Settings
