import SqlFanout.Fault

/-!
# Verdicts

The outcome of a check: whether it passed, a message for the reader, and the kind of the fault if it
did not.
-/

namespace SqlFanout

structure Verdict where
  isValid : Bool
  message : Text
  kind : Option FaultKind
  deriving DecidableEq, Repr

namespace Verdict

def accept (message : Text) : Verdict :=
  ⟨true, message, none⟩

def refuse (message : Text) : Verdict :=
  ⟨false, message, some .configuration⟩

def malformed (message : Text) : Verdict :=
  ⟨false, message, some .parse⟩

/-- The first verdict that refuses, or else the last one. -/
def orElse (verdict : Verdict) (next : Unit → Verdict) : Verdict :=
  if verdict.isValid then next () else verdict

end Verdict

end SqlFanout
