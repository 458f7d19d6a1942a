import SqlFanout.Proofs.CodeRoundTrip

/-!
# Chains of calls

A line may append several literals in a row.  Whatever a literal holds, reading it
stops at the quote that closes it, so that the scan goes on at the dot of the next call
(`callsIn_calls`), and the contents of all chains come back in order
(`appendedTexts_chains`).
-/

namespace SqlFanout.Builder

open Text

/-- A call of the appending method, in any spelling, with a literal on one line. -/
structure ChainedCall where
  method : Text
  content : Text
  spelled : folded method = folded "append"
  oneLine : '\n' ∉ content

def ChainedCall.code (call : ChainedCall) : Text :=
  '.' :: (call.method ++ "(\"" ++ escape call.content ++ "\")")

/-- A line that appends literals one after another to the same builder.  The builder is
named by any text on one line that holds no dot, as all identifiers are. -/
structure CallChain where
  builder : Text
  calls : List ChainedCall
  isEnded : Bool
  noDot : '.' ∉ builder
  oneLine : '\n' ∉ builder

namespace CallChain

def ending (chain : CallChain) : Text :=
  if chain.isEnded then ";" else []

def line (chain : CallChain) : Text :=
  chain.builder ++ (chain.calls.flatMap (·.code) ++ chain.ending)

def contents (chain : CallChain) : List Text :=
  chain.calls.map (·.content)

end CallChain

theorem callFinder_code (language : Language) (before : Option Char) (call : ChainedCall)
    (rest : Text) :
    callFinder language.dialect.appendMethod before (call.code ++ rest) =
      some (escape call.content, rest) := by
  have same : callFinder language.dialect.appendMethod = callFinder call.method :=
    callFinder_congr ((folded_appendMethod language).trans call.spelled.symm)
  rw [same]
  simpa [ChainedCall.code] using callFinder_call call.method before call.content rest

/-- All calls of a row are found, each behind the one before. -/
theorem callsIn_calls (language : Language) (calls : List ChainedCall) {ending : Text}
    (noDot : '.' ∉ ending) (before : Option Char) :
    (callFinder language.dialect.appendMethod).findAllFrom before
        (calls.flatMap (·.code) ++ ending) =
      calls.map fun call => escape call.content := by
  induction calls generalizing before with
  | nil => exact Finder.findAllFrom_eq_nil (CodeRequest.callFinder_silent language noDot) before
  | cons call calls induction =>
      have nonempty : call.code ≠ [] := List.cons_ne_nil _ _
      have found := callFinder_code language before call (calls.flatMap (·.code) ++ ending)
      rw [List.flatMap_cons, List.append_assoc, Finder.findAllFrom_part nonempty found,
        induction, List.map_cons]

namespace CallChain

theorem callsIn_line (language : Language) (chain : CallChain) :
    CodeRequest.callsIn language chain.line = chain.contents.map escape := by
  have ending : '.' ∉ chain.ending := by
    rw [CallChain.ending]
    cases chain.isEnded <;> decide
  have skipped := Finder.findAllFrom_skip (CodeRequest.callFinder_silent language chain.noDot) none
    (chain.calls.flatMap (·.code) ++ chain.ending)
  have found := callsIn_calls language chain.calls ending (lastOr none chain.builder)
  rw [contents, List.map_map]
  exact skipped.trans found

theorem lineFeed_not_mem_code (call : ChainedCall) : '\n' ∉ call.code := by
  have method : '\n' ∉ call.method := by
    intro member
    have inFolded : fold '\n' ∈ folded call.method := List.mem_map_of_mem member
    rw [call.spelled] at inFolded
    exact absurd inFolded (by decide)
  have content : '\n' ∉ escape call.content := not_mem_escape (by decide) call.oneLine
  simp only [ChainedCall.code, List.mem_cons, List.mem_append, not_or]
  exact ⟨by decide, ⟨⟨method, by decide⟩, content⟩, by decide⟩

theorem lineFeed_not_mem_line (chain : CallChain) : '\n' ∉ chain.line := by
  have ending : '\n' ∉ chain.ending := by
    rw [CallChain.ending]
    cases chain.isEnded <;> decide
  simp only [line, List.mem_append, List.mem_flatMap, not_or, not_exists, not_and]
  exact ⟨chain.oneLine, fun call _ => lineFeed_not_mem_code call, ending⟩

end CallChain

/-- The contents of all literals that the lines append come back unchanged and in order,
in whatever language the lines are read; only those that are blank are left out. -/
theorem appendedTexts_chains (language : Language) (chains : List CallChain) :
    appendedTexts language (unlines (chains.map (·.line))) =
      (chains.flatMap (·.contents)).filter fun content => !isBlankText content := by
  have calls : (lines (unlines (chains.map (·.line)))).flatMap (CodeRequest.callsIn language) =
      (chains.flatMap (·.contents)).map escape := by
    cases some : chains with
    | nil => rfl
    | cons first others =>
        rw [← some, lines_unlines_of_ne_nil (by simp [some])]
        · rw [List.flatMap_map, List.map_flatMap]
          apply List.flatMap_congr
          intro chain _
          exact chain.callsIn_line language
        · intro part member
          obtain ⟨chain, -, rfl⟩ := List.mem_map.mp member
          exact chain.lineFeed_not_mem_line
  rw [appendedTexts, calls, List.map_map]
  have freed : unescape ∘ escape = id := funext unescape_escape
  rw [freed, List.map_id]

/-- A literal that ends in a backslash, a blank one, and one that holds a call. -/
def nestedChain : CallChain where
  builder := "sb"
  calls :=
    [⟨"append", "'\\", by decide, by decide⟩, ⟨"Append", " \t", by decide, by decide⟩,
      ⟨"append", "\").append(\"x", by decide, by decide⟩]
  isEnded := true
  noDot := by decide
  oneLine := by decide

/-- A line that names a builder and appends nothing to it. -/
def idleChain : CallChain where
  builder := "sb"
  calls := []
  isEnded := false
  noDot := by decide
  oneLine := by decide

theorem appendedTexts_chains_nested :
    nestedChain.line =
        "sb.append(\"'\\\\\").Append(\" \t\").append(\"\\\").append(\\\"x\");" ∧
      appendedTexts .kotlin (unlines [idleChain.line, nestedChain.line]) =
        ["'\\", "\").append(\"x"] :=
  ⟨by decide, (appendedTexts_chains .kotlin [idleChain, nestedChain]).trans (by decide)⟩

end SqlFanout.Builder
