/-!
# Ranges of code points

Character properties are listed as closed ranges in increasing order.  Looking a code point up stops
at the first range that ends at or after it, so the low ranges answer quickly.
-/

namespace SqlFanout.Text

/-- The first and the last code point of a range. -/
abbrev CodeRange := Nat × Nat

/-- Membership in a list of increasing ranges. -/
def inRanges (code : Nat) : List CodeRange → Bool
  | [] => false
  | (first, last) :: rest =>
      if code ≤ last then decide (first ≤ code) else inRanges code rest

/-- Every `stride`-th code point from `first` to `last` moves by `offset`. -/
structure CaseShift where
  first : Nat
  last : Nat
  stride : Nat
  offset : Int

/-- Applies the shift that covers a code point, if one does. -/
def shifted (code : Nat) : List CaseShift → Option Nat
  | [] => none
  | shift :: rest =>
      if code < shift.first then none
      else if code ≤ shift.last && (code - shift.first) % shift.stride == 0 then
        some (code + shift.offset).toNat
      else shifted code rest

end SqlFanout.Text
