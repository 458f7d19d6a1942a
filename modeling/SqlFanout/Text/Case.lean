import SqlFanout.Text.Basic
import SqlFanout.Text.Alphabet
import SqlFanout.Text.Table.CaseMap
import SqlFanout.Text.Table.Cased

/-!
# Upper and lower case

Full case mappings of texts, where one character may become several, and the one-to-one folding that
comparisons without regard to case use.  A capital sigma is lowered to its final form when a cased
character precedes it and none follows, case-ignorable characters apart.
-/

namespace SqlFanout.Text

def asciiUpper (c : Char) : Char :=
  if 'a' ≤ c && c ≤ 'z' then Char.ofNat (c.toNat - 32) else c

def asciiLower (c : Char) : Char :=
  if 'A' ≤ c && c ≤ 'Z' then Char.ofNat (c.toNat + 32) else c

/-- The upper case of one character. -/
def upperChar (c : Char) : Text :=
  if isAscii c then [asciiUpper c]
  else
    match Table.upperExpansions.lookup c.toNat with
    | some codes => codes.map Char.ofNat
    | none => [Char.ofNat ((shifted c.toNat Table.upperShifts).getD c.toNat)]

def upper (text : Text) : Text :=
  text.flatMap upperChar

/-- The lower case of one character regardless of its neighbours. The dotted capital I is the one
character whose lower case is longer. -/
def lowerChar (c : Char) : Text :=
  if isAscii c then [asciiLower c]
  else if c == 'İ' then ['i', Char.ofNat 0x307]
  else [Char.ofNat ((shifted c.toNat Table.lowerShifts).getD c.toNat)]

def isCased (c : Char) : Bool :=
  inRanges c.toNat Table.caseds

def isCaseIgnorable (c : Char) : Bool :=
  inRanges c.toNat Table.caseIgnorables

/-- Whether the first character that is not case-ignorable is cased. -/
def meetsCased : Text → Bool
  | [] => false
  | c :: rest => if isCaseIgnorable c then meetsCased rest else isCased c

/-- Lowers a text whose left neighbours, nearest first, are given. -/
def lowerFrom (before : Text) : Text → Text
  | [] => []
  | c :: rest =>
      let lowered :=
        if c == 'Σ' then
          if meetsCased before && !meetsCased rest then ['ς'] else ['σ']
        else lowerChar c
      lowered ++ lowerFrom (c :: before) rest

def lower (text : Text) : Text :=
  lowerFrom [] text

/-- The representative of all characters that differ from a character in case only. -/
def fold (c : Char) : Char :=
  if isAscii c then asciiLower c
  else
    let code := if c == 'İ' then 'i'.toNat else (shifted c.toNat Table.lowerShifts).getD c.toNat
    Char.ofNat ((Table.lowerTwins.lookup code).getD code)

/-- Equality of characters without regard to case. -/
def sameLetter (c d : Char) : Bool :=
  fold c == fold d

/-- What follows a given beginning, compared without regard to case. -/
def afterFolded? : Text → Text → Option Text
  | [], text => some text
  | _ :: _, [] => none
  | p :: start, c :: rest => if sameLetter p c then afterFolded? start rest else none

end SqlFanout.Text
