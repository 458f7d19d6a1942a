import SqlFanout.Builder.Recovery

/-!
# Round trips

A statement is written as code, recovered from it, written in the next language, and so on.
-/

namespace SqlFanout.Builder

/-- One leg of a round trip. -/
structure Leg where
  code : BuilderCode
  back : RecoveredSql
  deriving DecidableEq, Repr

/-- Runs through the languages in order; each leg starts from the statement that the last one
recovered, and a leg that recovers none is the last. -/
def roundTrip (settings : Settings) (variableName : Text) (explicit : Bool) (sql : Text) :
    List Language → Logged (List Leg)
  | [] => return []
  | language :: languages => do
      let code ← CodeRequest.generate settings
        { variableName := variableName, language := language, sql := sql }
      let back ← RecoveredSql.recover (if explicit then some language else none) code.code
      if back.success then
        let legs ← roundTrip settings variableName explicit back.sql languages
        return ⟨code, back⟩ :: legs
      else return [⟨code, back⟩]

end SqlFanout.Builder
