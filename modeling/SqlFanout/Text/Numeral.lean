import SqlFanout.Text.Blank
import SqlFanout.Text.Alphabet

/-!
# Numerals

Integers are written in decimal without leading zeros.  They are read more liberally: white space may
surround the numeral, a sign may precede it, and a single underscore may stand between two digits.
-/

namespace SqlFanout.Text

def ofNat (n : Nat) : Text :=
  Nat.toDigits 10 n

def ofInt : Int → Text
  | .ofNat n => ofNat n
  | .negSucc n => '-' :: ofNat (n + 1)

/-- At least two digits, padded with a zero. -/
def twoDigits (n : Nat) : Text :=
  if n < 10 then '0' :: ofNat n else ofNat n

/-- Lower-case hexadecimal digits, padded with zeros to a width. -/
def hex (width n : Nat) : Text :=
  let digits := Nat.toDigits 16 n
  List.replicate (width - digits.length) '0' ++ digits

def trimWhiteSpace (text : Text) : Text :=
  dropTrailing isWhiteSpace (text.dropWhile isWhiteSpace)

/-- Reads the digits that follow a digit, under a valuation of digits. -/
def readDigitsFrom (value? : Char → Option Nat) (total : Nat) : Text → Option Nat
  | [] => some total
  | '_' :: d :: rest =>
      match value? d with
      | some digit => readDigitsFrom value? (total * 10 + digit) rest
      | none => none
  | d :: rest =>
      match value? d with
      | some digit => readDigitsFrom value? (total * 10 + digit) rest
      | none => none

/-- Reads a numeral without sign; single underscores may stand between its digits. -/
def readNat? (value? : Char → Option Nat) : Text → Option Nat
  | [] => none
  | d :: rest =>
      match value? d with
      | some digit => readDigitsFrom value? digit rest
      | none => none

/-- Applies a reader of magnitudes behind an optional sign. -/
def readSigned? (readMagnitude? : Text → Option Nat) : Text → Option Int
  | '+' :: rest => (readMagnitude? rest).map Int.ofNat
  | '-' :: rest => (readMagnitude? rest).map fun n => -Int.ofNat n
  | text => (readMagnitude? text).map Int.ofNat

/-- Numerals with more digits than this are not read. -/
def maxDigits : Nat := 4300

/-- Reads an integer in the decimal digits of any script. -/
def readInt? (text : Text) : Option Int :=
  if text.countP isDecimal > maxDigits then none
  else readSigned? (readNat? decimalValue?) (trimWhiteSpace text)

end SqlFanout.Text
