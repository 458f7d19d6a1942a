import SqlFanout.Fault
import SqlFanout.Keyed
import SqlFanout.Text.Case
import SqlFanout.Text.Quoted

/-!
# Aggregates

The functions that sum up a column of the shards, and the assignment of functions to expressions.
An assignment keeps the order in which its expressions were first given; a later function for the
same expression takes the place of the earlier one.
-/

namespace SqlFanout

inductive AggregateFunction where
  | sum
  | count
  | avg
  | max
  | min
  deriving DecidableEq, Repr

namespace AggregateFunction

def all : List AggregateFunction :=
  [sum, count, avg, max, min]

def name : AggregateFunction → Text
  | sum => "SUM"
  | count => "COUNT"
  | avg => "AVG"
  | max => "MAX"
  | min => "MIN"

def read (text : Text) : Except Fault AggregateFunction :=
  match all.find? fun function => function.name == text with
  | some function => .ok function
  | none => .error (.foreign (Text.quoted text ++ " is not a valid StatisticFunction"))

/-- The function applied to a column of a table. -/
def apply (function : AggregateFunction) (table column : Text) : Text :=
  function.name ++ "(" ++ table ++ "." ++ column ++ ")"

end AggregateFunction

/-- Which function each expression is summed up by. -/
abbrev Assignment := Keyed AggregateFunction

namespace Assignment

/-- Reads `expression=function`, cut at the last equals sign. -/
def readItem (item : Text) : Except Fault (Text × AggregateFunction) :=
  match Text.splitAtLast '=' item with
  | none => .error (malformed item)
  | some (expression, function) =>
      if Text.isBlankText expression then .error (malformed item)
      else
        match AggregateFunction.read (Text.upper (Text.trim function)) with
        | .error fault => .error fault
        | .ok found => .ok (Text.trim expression, found)
where
  malformed (item : Text) : Fault :=
    .foreign ("집계 함수 지정 형식이 올바르지 않습니다: " ++ item)

def readItemsInto (assignment : Assignment) : List Text → Except Fault Assignment
  | [] => .ok assignment
  | item :: items =>
      match readItem item with
      | .error fault => .error fault
      | .ok (expression, function) => readItemsInto (Keyed.put expression function assignment) items

/-- Reads items in order and stops at the first one that is not well formed. -/
def readItems (items : List Text) : Except Fault Assignment :=
  readItemsInto [] items

end Assignment

end SqlFanout
