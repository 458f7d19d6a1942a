import SqlFanout.Text.Numeral

/-!
# Moments

The wall clock is an argument of everything that shows or uses the time.
-/

namespace SqlFanout

structure Moment where
  year : Nat
  month : Nat
  day : Nat
  hour : Nat
  minute : Nat
  second : Nat
  deriving DecidableEq, Repr

/-- Date and time of day, as reports show them. -/
def Moment.stamp (moment : Moment) : Text :=
  Text.ofNat moment.year ++ "-" ++ Text.twoDigits moment.month ++ "-" ++ Text.twoDigits moment.day
    ++ " " ++ Text.twoDigits moment.hour ++ ":" ++ Text.twoDigits moment.minute ++ ":"
    ++ Text.twoDigits moment.second

/-- What the clock shows, in milliseconds, at one reading after another. -/
abbrev Clock := Nat → Nat

namespace Clock

/-- A clock that always shows the same. -/
def stopped (millis : Nat) : Clock := fun _ => millis

/-- A clock from its second reading on. -/
def later (clock : Clock) : Clock := fun reading => clock (reading + 1)

end Clock

/-- The words by which reports tell success from failure. -/
def outcomeWord (success : Bool) : Text :=
  if success then "성공" else "실패"

/-- The words by which reports answer yes or no. -/
def yesNo (flag : Bool) : Text :=
  if flag then "예" else "아니오"

/-- A message that may be missing, as reports show it. -/
def messageOrNone : Option Text → Text
  | some message => message
  | none => "None"

end SqlFanout
