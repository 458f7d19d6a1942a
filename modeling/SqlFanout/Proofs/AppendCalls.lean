import SqlFanout.Builder.Recovery
import SqlFanout.Proofs.Letters
import SqlFanout.Proofs.Lines
import SqlFanout.Proofs.Scanning

/-!
# Calls that append a literal

Reading a literal stops at the quote that writing put behind it, whatever the
content is, and freeing the content from escapes gives the content back.  The
appending method is compared without regard to case, so calls are found alike in
all languages, and a recovered statement does not depend on the language.
-/

namespace SqlFanout.Builder

open Text

theorem escape_cons (c : Char) (text : Text) :
    escape (c :: text) = escapeChar c ++ escape text := rfl

theorem escape_append (left right : Text) :
    escape (left ++ right) = escape left ++ escape right := by
  simp [escape]

theorem escapeChar_of_special {c : Char} (special : c = '\\' ∨ c = '\x22') :
    escapeChar c = ['\\', c] := by
  rcases special with rfl | rfl <;> rfl

theorem escapeChar_of_plain {c : Char} (plain : ¬(c = '\\' ∨ c = '\x22')) :
    escapeChar c = [c] := by
  simp [escapeChar, plain]

theorem not_mem_escape {mark : Char} (plain : ¬(mark = '\\' ∨ mark = '\x22'))
    {text : Text} (absent : mark ∉ text) : mark ∉ escape text := by
  intro member
  obtain ⟨c, inText, inEscape⟩ := List.mem_flatMap.mp member
  by_cases special : c = '\\' ∨ c = '\x22'
  · rw [escapeChar_of_special special] at inEscape
    rcases List.mem_cons.mp inEscape with backslash | same
    · exact plain (.inl backslash)
    · exact plain (List.mem_singleton.mp same ▸ special)
  · rw [escapeChar_of_plain special] at inEscape
    exact absent (List.mem_singleton.mp inEscape ▸ inText)

theorem unescape_escape (text : Text) : unescape (escape text) = text := by
  induction text with
  | nil => rfl
  | cons c text induction =>
      rw [escape_cons]
      by_cases special : c = '\\' ∨ c = '\x22'
      · rw [escapeChar_of_special special]
        simp [unescape, special, induction]
      · have noBackslash : c ≠ '\\' := fun same => special (.inl same)
        rw [escapeChar_of_plain special]
        simp [unescape, noBackslash, induction]

theorem readDelimited?_escape (text rest : Text) :
    readDelimited? '\x22' (escape text ++ '\x22' :: rest) = some (escape text, rest) := by
  induction text with
  | nil => cases rest <;> simp [escape, readDelimited?]
  | cons c text induction =>
      rw [escape_cons]
      by_cases special : c = '\\' ∨ c = '\x22'
      · rw [escapeChar_of_special special]
        simp [readDelimited?, induction]
      · have noBackslash : c ≠ '\\' := fun same => special (.inl same)
        have noQuote : c ≠ '\x22' := fun same => special (.inr same)
        rw [escapeChar_of_plain special]
        obtain ⟨d, tail, continued⟩ : ∃ d tail,
            escape text ++ '\x22' :: rest = d :: tail :=
          List.exists_cons_of_ne_nil (by simp)
        rw [continued] at induction
        simp [continued, readDelimited?, noBackslash, noQuote, induction]

theorem callFinder_of_ne_dot (method : Text) (before : Option Char) {c : Char}
    (noDot : c ≠ '.') (rest : Text) : callFinder method before (c :: rest) = none := by
  unfold callFinder
  split
  next same => exact absurd (List.cons.inj same).1 noDot
  next => rfl

theorem callFinder_call (method : Text) (before : Option Char) (content rest : Text) :
    callFinder method before
        ('.' :: (method ++ "(\"" ++ escape content ++ "\")" ++ rest)) =
      some (escape content, rest) := by
  have marks : isBlank '(' = false ∧ isBlank '\x22' = false ∧ isBlank ')' = false := by
    decide
  simp [callFinder, afterFolded?_of_folded, readArgument?, trimLeft, marks,
    readDelimited?_escape]

theorem callFinder_congr {method other : Text} (same : folded method = folded other) :
    callFinder method = callFinder other := by
  funext before text
  unfold callFinder
  rw [afterFolded?_congr same]

theorem folded_appendMethod (language : Language) :
    folded language.dialect.appendMethod = folded "append" := by
  cases language <;> decide

/-- The calls of a line do not depend on the language. -/
theorem callFinder_appendMethod (language other : Language) :
    callFinder language.dialect.appendMethod = callFinder other.dialect.appendMethod :=
  callFinder_congr ((folded_appendMethod language).trans (folded_appendMethod other).symm)

theorem appendedTexts_eq (language other : Language) (code : Text) :
    appendedTexts language code = appendedTexts other code := by
  simp only [appendedTexts, callFinder_appendMethod language other]

namespace RecoveredSql

theorem fragmentsOf_collect_eq (language other : Language) (code : Text) :
    fragmentsOf collect language code = fragmentsOf collect other code := by
  simp only [fragmentsOf, collect, appendedTexts_eq language other]

/-- Two outcomes that may differ in the language and in the builders that were
found, and in nothing else. -/
structure Agrees (left right : RecoveredSql) : Prop where
  success : left.success = right.success
  sql : left.sql = right.sql
  fragments : left.fragments = right.fragments
  errorMessage : left.errorMessage = right.errorMessage
  errorKind : left.errorKind = right.errorKind

/-- Both languages collect the same fragments or meet the same fault, and only
the language and the declared names of an outcome look at anything else. -/
theorem agrees_ofCode (language other : Language) (code : Text) :
    Agrees (ofCode language code).value (ofCode other code).value := by
  unfold ofCode ofCodeWith
  rw [fragmentsOf_collect_eq language other]
  cases fragmentsOf collect other code with
  | error fault =>
      cases parse : fault.isParse <;> constructor <;> simp [parse, failed]
  | ok fragments => exact ⟨rfl, rfl, rfl, rfl, rfl⟩

/-- The statement that is recovered from code, or the fault that is reported,
is the same for every language, given or guessed. -/
theorem recovery_independent_of_language (code : Text) (language other : Language) :
    Agrees (ofCode language code).value (ofCode other code).value ∧
      Agrees (recover none code).value (recover (some language) code).value := by
  refine ⟨agrees_ofCode language other code, ?_⟩
  exact agrees_ofCode (guessLanguage code) language code

end RecoveredSql

end SqlFanout.Builder
