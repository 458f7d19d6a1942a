import SqlFanout.Text.Basic

/-!
# Keyed lists

Values by name, in the order in which the names were first put.  A later value for a name takes the place
of the earlier one, so that every name stands once.
-/

namespace SqlFanout

abbrev Keyed (α : Type) := List (Text × α)

namespace Keyed

variable {α : Type}

def put (name : Text) (value : α) : Keyed α → Keyed α
  | [] => [(name, value)]
  | (other, current) :: rest =>
      if other = name then (other, value) :: rest else (other, current) :: put name value rest

def get? (keyed : Keyed α) (name : Text) : Option α :=
  keyed.lookup name

def ofPairs (pairs : List (Text × α)) : Keyed α :=
  pairs.foldl (fun keyed (name, value) => put name value keyed) []

/-- After a value is put, it is found under its name, and other names are found as before. -/
theorem get?_put (name other : Text) (value : α) (keyed : Keyed α) :
    get? (put name value keyed) other = if other = name then some value else get? keyed other := by
  unfold get?
  induction keyed with
  | nil =>
      by_cases same : other = name
      · simp [put, same]
      · have differ : (other == name) = false := by simpa using same
        simp [put, List.lookup_cons, same, differ]
  | cons head rest hypothesis =>
      obtain ⟨first, current⟩ := head
      by_cases found : other = first
      · by_cases there : first = name <;> simp [put, found, there]
      · have differ : (other == first) = false := by simpa using found
        by_cases there : first = name
        · subst there
          simp [put, List.lookup_cons, differ, found]
        · simp [put, List.lookup_cons, differ, there, hypothesis]

end Keyed

end SqlFanout
