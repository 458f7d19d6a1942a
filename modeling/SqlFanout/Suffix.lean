import SqlFanout.Journal
import SqlFanout.Text.Blank
import SqlFanout.Text.Numeral
import SqlFanout.Text.Scan
import SqlFanout.Verdict

/-!
# Suffix series

Physical tables are told apart by a suffix.  A series numbers its suffixes from zero: by a plain
sequence, by years, by calendar months, or by a format with placeholders for the number.
-/

namespace SqlFanout

inductive SuffixStyle where
  | sequence
  | year
  | yearMonth
  | custom
  deriving DecidableEq, Repr

namespace SuffixStyle

def all : List SuffixStyle :=
  [sequence, year, yearMonth, custom]

/-- The word that selects a style. -/
def keyword : SuffixStyle → Text
  | sequence => "sequence"
  | year => "year"
  | yearMonth => "year_month"
  | custom => "custom"

def ofKeyword? (text : Text) : Option SuffixStyle :=
  all.find? fun style => style.keyword == text

/-- The constant by which records name a style. -/
def constant : SuffixStyle → Text
  | sequence => "SEQUENCE"
  | year => "YEAR"
  | yearMonth => "YEAR_MONTH"
  | custom => "CUSTOM"

def displayName : SuffixStyle → Text
  | sequence => "숫자 시퀀스"
  | year => "연도"
  | yearMonth => "연월"
  | custom => "사용자 정의"

def description : SuffixStyle → Text
  | sequence => "_0, _1, _2... 형식의 접미사 생성"
  | year => "_2020, _2021... 형식의 접미사 생성"
  | yearMonth => "_202001, _202002... 형식의 접미사 생성"
  | custom => "사용자 정의 포맷으로 접미사 생성"

def sample : SuffixStyle → Text
  | sequence => "예시: _0, _1, _2, _3..."
  | year => "예시: _2020, _2021, _2022, _2023..."
  | yearMonth => "예시: _202001, _202002, _202003, _202004..."
  | custom => "예시: \x7bindex\x7d placeholder 사용, table_\x7bindex\x7d → table_0, table_1..."

/-- Styles that start from a year. -/
def isCalendar : SuffixStyle → Bool
  | year => true
  | yearMonth => true
  | _ => false

end SuffixStyle

/-- The texts of a custom format that stand for the number of a suffix. -/
def placeholders : List Text :=
  ["\x7bindex\x7d", "\x7bINDEX\x7d", "\x7bi\x7d", "\x7bI\x7d"]

/-- Puts a number in the place of every placeholder. -/
def fillPlaceholders (format : Text) (index : Int) : Text :=
  placeholders.foldl (fun text placeholder => Text.replaceAll placeholder (Text.ofInt index) text)
    format

structure SuffixSeries where
  style : SuffixStyle := .sequence
  format : Text := "_"
  startYear : Int := 2020
  startMonth : Int := 1
  deriving DecidableEq, Repr

namespace SuffixSeries

/-- The suffix of a number.  Months are counted through, so that January follows December. -/
def suffix (series : SuffixSeries) (index : Int) : Text :=
  match series.style with
  | .sequence => series.format ++ Text.ofInt index
  | .year => series.format ++ Text.ofInt (series.startYear + index)
  | .yearMonth =>
      let months := series.startYear * 12 + (series.startMonth - 1) + index
      series.format ++ Text.ofInt (months / 12) ++ Text.twoDigits (months % 12 + 1).toNat
  | .custom => fillPlaceholders series.format index

/-- The first suffixes of a series. -/
def suffixes (series : SuffixSeries) (count : Int) : List Text :=
  (List.range count.toNat).map fun index : Nat => series.suffix index

/-- The first suffixes of a series, with a record of the request. -/
def list (series : SuffixSeries) (count : Int) : Logged (List Text) := do
  let found := series.suffixes count
  Logged.debug .suffixes
    (series.style.constant ++ " 접미사 " ++ Text.ofNat found.length ++ "개 생성")
  return found

end SuffixSeries

/-- A format must not be blank, and a custom one must hold a placeholder. -/
def SuffixStyle.checkFormat (style : SuffixStyle) (format : Text) : Verdict :=
  if Text.isBlankText format then .refuse "포맷 문자열은 비어 있을 수 없습니다"
  else if style == .custom && !placeholders.any (Text.occursIn · format) then
    .refuse "사용자 정의 포맷에는 \x7bindex\x7d 또는 \x7bi\x7d 같은 placeholder가 필요합니다"
  else .accept "포맷 문자열이 유효합니다"

end SqlFanout
