import Mathlib.Data.List.Iterate
import SqlFanout.Proofs.Suffixes

/-!
# Suffixes of calendar months

Months are counted through, twelve to a year.  A suffix of a monthly series shows the
month whose count is that of the start plus the number of the suffix
(`suffix_eq_iff_count`), so that the suffixes follow the calendar across any number of
year ends, and every month has its place among them (`months_in_turn`).
-/

namespace SqlFanout

open Text

/-- A month of the calendar.  The year zero and negative years are years like others. -/
structure CalendarMonth where
  year : Int
  month : Nat
  isMonth : 1 ≤ month ∧ month ≤ 12

namespace CalendarMonth

/-- Months counted through, twelve to a year. -/
def count (date : CalendarMonth) : Int :=
  12 * date.year + date.month

theorem count_injective : Function.Injective count := by
  rintro ⟨year, month, isMonth⟩ ⟨otherYear, otherMonth, isOther⟩ same
  simp only [count] at same
  obtain ⟨rfl, rfl⟩ : year = otherYear ∧ month = otherMonth := by omega
  rfl

/-- The month of a given count. -/
def ofCount (number : Int) : CalendarMonth where
  year := (number - 1) / 12
  month := ((number - 1) % 12 + 1).toNat
  isMonth := by omega

theorem count_ofCount (number : Int) : (ofCount number).count = number := by
  simp only [count, ofCount]
  omega

/-- January follows December. -/
def next (date : CalendarMonth) : CalendarMonth :=
  if inside : date.month < 12 then ⟨date.year, date.month + 1, by omega⟩
  else ⟨date.year + 1, 1, by omega⟩

theorem count_next (date : CalendarMonth) : date.next.count = date.count + 1 := by
  have isMonth := date.isMonth
  rw [next]
  split
  next inside =>
    simp only [count]
    omega
  next december =>
    simp only [count]
    omega

/-- The year, and behind it the month in two digits. -/
def numeral (date : CalendarMonth) : Text :=
  ofInt date.year ++ [Nat.digitChar (date.month / 10), Nat.digitChar (date.month % 10)]

theorem numeral_eq (date : CalendarMonth) :
    date.numeral = ofInt date.year ++ twoDigits date.month := by
  have check : ∀ month : Fin 13, twoDigits month =
      [Nat.digitChar (month / 10), Nat.digitChar (month % 10)] := by decide
  have small : date.month < 13 := Nat.lt_succ_of_le date.isMonth.2
  rw [numeral, check ⟨date.month, small⟩]

theorem numeral_injective : Function.Injective numeral := by
  intro left right same
  have leftSmall : left.month < 13 := Nat.lt_succ_of_le left.isMonth.2
  have rightSmall : right.month < 13 := Nat.lt_succ_of_le right.isMonth.2
  rw [numeral_eq, numeral_eq] at same
  have size : (twoDigits left.month).length = (twoDigits right.month).length := by
    rw [twoDigits_month leftSmall, twoDigits_month rightSmall]
  obtain ⟨years, months⟩ := List.append_inj' same size
  have year : left.year = right.year := ofInt_injective years
  have month : left.month = right.month := eq_of_twoDigits leftSmall rightSmall months
  apply count_injective
  rw [count, count, year, month]

end CalendarMonth

namespace SuffixSeries

/-- The suffixes of calendar months behind a format.  The series may be started from any
number of a month, also from one outside of a year. -/
def monthly (format : Text) (startYear startMonth : Int) : SuffixSeries :=
  { style := .yearMonth, format, startYear, startMonth }

section Monthly

variable {format : Text} {startYear startMonth : Int}

theorem suffix_monthly (index : Int) :
    (monthly format startYear startMonth).suffix index =
      format ++ (CalendarMonth.ofCount (12 * startYear + startMonth + index)).numeral := by
  have months : startYear * 12 + (startMonth - 1) + index =
      12 * startYear + startMonth + index - 1 := by omega
  rw [CalendarMonth.numeral_eq, ← List.append_assoc]
  simp only [suffix, monthly, months, CalendarMonth.ofCount]

/-- The number of a suffix is the count of the month that it shows, taken from the start. -/
theorem suffix_eq_iff_count {index : Int} {date : CalendarMonth} :
    (monthly format startYear startMonth).suffix index = format ++ date.numeral ↔
      date.count = 12 * startYear + startMonth + index := by
  rw [suffix_monthly, List.append_cancel_left_eq, CalendarMonth.numeral_injective.eq_iff]
  constructor
  · rintro rfl
    exact CalendarMonth.count_ofCount _
  · intro counted
    apply CalendarMonth.count_injective
    rw [CalendarMonth.count_ofCount, counted]

theorem suffix_succ_iff {index : Int} {date : CalendarMonth} :
    (monthly format startYear startMonth).suffix (index + 1) = format ++ date.next.numeral ↔
      (monthly format startYear startMonth).suffix index = format ++ date.numeral := by
  rw [suffix_eq_iff_count, suffix_eq_iff_count, CalendarMonth.count_next]
  omega

theorem suffix_iterate {first : CalendarMonth}
    (start : (monthly format startYear startMonth).suffix 0 = format ++ first.numeral)
    (steps : Nat) :
    (monthly format startYear startMonth).suffix steps =
      format ++ (CalendarMonth.next^[steps] first).numeral := by
  induction steps with
  | zero => exact start
  | succ steps induction =>
      rw [Function.iterate_succ_apply']
      exact suffix_succ_iff.mpr induction

theorem suffixes_monthly {first : CalendarMonth}
    (start : (monthly format startYear startMonth).suffix 0 = format ++ first.numeral)
    (count : Int) :
    (monthly format startYear startMonth).suffixes count =
      (List.iterate CalendarMonth.next first count.toNat).map fun date =>
        format ++ date.numeral := by
  rw [← List.range_map_iterate, List.map_map, suffixes]
  apply List.map_congr_left
  intro index _
  exact suffix_iterate start index

end Monthly

/-- Each suffix of a monthly series shows one month, whose count from the start is the
number of the suffix.  So the first suffix shows the month that the series is started
from, the next suffix the next month, and each month is shown by one suffix; a series
that is started later shows the same months earlier. -/
theorem months_in_turn (format : Text) (startYear startMonth : Int) :
    (∀ index, ∃! date : CalendarMonth,
      (monthly format startYear startMonth).suffix index = format ++ date.numeral) ∧
    (∀ index (date : CalendarMonth),
      (monthly format startYear startMonth).suffix index = format ++ date.numeral ↔
        12 * date.year + date.month = 12 * startYear + startMonth + index) ∧
    (∀ start : CalendarMonth, start.year = startYear → start.month = startMonth →
      (monthly format startYear startMonth).suffix 0 = format ++ start.numeral) ∧
    (∀ index (date : CalendarMonth),
      (monthly format startYear startMonth).suffix index = format ++ date.numeral ↔
        (monthly format startYear startMonth).suffix (index + 1) =
          format ++ date.next.numeral) ∧
    (∀ date : CalendarMonth, ∃! index,
      (monthly format startYear startMonth).suffix index = format ++ date.numeral) ∧
    (∀ (first : CalendarMonth) (count : Int),
      (monthly format startYear startMonth).suffix 0 = format ++ first.numeral →
        (monthly format startYear startMonth).suffixes count =
          (List.iterate CalendarMonth.next first count.toNat).map fun date =>
            format ++ date.numeral) ∧
    (∀ later index, (monthly format startYear (startMonth + later)).suffix index =
      (monthly format startYear startMonth).suffix (index + later)) := by
  refine ⟨fun index => ?shown, fun index date => suffix_eq_iff_count,
    fun start year month => ?start, fun index date => suffix_succ_iff.symm,
    fun date => ?place, fun first count start => suffixes_monthly start count,
    fun later index => ?later⟩
  case shown =>
    refine ⟨_, suffix_monthly index, fun other shown => ?_⟩
    apply CalendarMonth.count_injective
    rw [CalendarMonth.count_ofCount, suffix_eq_iff_count.mp shown]
  case start =>
    rw [suffix_eq_iff_count, CalendarMonth.count, year, month, Int.add_zero]
  case place =>
    refine ⟨date.count - (12 * startYear + startMonth), ?_, fun index shown => ?_⟩
    · exact suffix_eq_iff_count.mpr (by omega)
    · have counted := suffix_eq_iff_count.mp shown
      omega
  case later =>
    rw [suffix_monthly, suffix_monthly]
    congr 3
    omega

/-- The last month of a year, and the month before the year zero. -/
theorem months_in_turn_year_end :
    (monthly "_" 2023 12).suffixes 3 = (["_202312", "_202401", "_202402"] : List Text) ∧
    (monthly "_" 0 1).suffix (-1) = "_-112" := by
  obtain ⟨-, -, starts, -, -, run, -⟩ := months_in_turn "_" 2023 12
  obtain ⟨-, counted, -⟩ := months_in_turn "_" 0 1
  constructor
  · rw [run ⟨2023, 12, by decide⟩ 3 (starts ⟨2023, 12, by decide⟩ rfl rfl)]
    rfl
  · exact (counted (-1) ⟨-1, 12, by decide⟩).mpr (by decide)

end SuffixSeries

end SqlFanout
