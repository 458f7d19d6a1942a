import SqlFanout.Proofs.Declarations

/-!
# Guessing the language of written code

A guess goes by the words in a text, the first rule first.  Code of C# is always
recognised.  The rule that comes next takes any code that creates the same builder and
appends to it in small letters for Kotlin, so that Scala and Groovy are never guessed;
and the words of the statement and of the variable count as well (`guessLanguage_render`).
A wrong guess costs nothing but the name of the variable (`recover_guessed`).
-/

namespace SqlFanout.Builder

open Text

namespace CodeRequest

variable {request : CodeRequest}

theorem occursIn_bigCall (other : request.language ≠ .csharp)
    (named : isVariableName request.variableName = true)
    (present : isBlankText request.sql = false) :
    occursIn "Append(" request.render = occursIn "Append(" request.sql := by
  have parenthesis : '(' ∈ ("Append(" : Text) := by decide
  have comment : ¬("Append(" : Text) <:+: commentLine request.language.dialect := by
    cases request.language <;> decide
  have pieces : ¬∃ piece ∈ fixedPieces request.language, ("Append(" : Text) <:+: piece := by
    revert other
    cases request.language <;> decide
  apply occursIn_render_of_unframed named present (by decide) (by decide)
  rw [exists_framing_iff_of_mark named parenthesis (by decide) (by decide) (by decide)
    (by decide)]
  simp only [comment, pieces, and_false, or_false, not_false_eq_true]

theorem occursIn_smallCall (other : request.language ≠ .csharp)
    (named : isVariableName request.variableName = true)
    (present : isBlankText request.sql = false) :
    occursIn "append(" request.render = true := by
  have pieces : ∃ piece ∈ fixedPieces request.language, ("append(" : Text) <:+: piece := by
    revert other
    cases request.language <;> decide
  apply occursIn_render_of_framed named present (by decide)
  rw [exists_framing_iff_pieces (by decide) (by decide)]
  exact .inr (.inl pieces)

theorem occursIn_bigCall_csharp (csharp : request.language = .csharp)
    (named : isVariableName request.variableName = true)
    (present : isBlankText request.sql = false) :
    occursIn "Append(" request.render = true := by
  apply occursIn_render_of_framed named present (by decide)
  rw [exists_framing_iff_pieces (by decide) (by decide), csharp]
  exact .inr (.inl (by decide))

theorem occursIn_builder (other : request.language ≠ .java)
    (named : isVariableName request.variableName = true)
    (present : isBlankText request.sql = false) :
    occursIn "StringBuilder" request.render = true := by
  have pieces : ∃ piece ∈ fixedPieces request.language, ("StringBuilder" : Text) <:+: piece := by
    revert other
    cases request.language <;> decide
  apply occursIn_render_of_framed named present (by decide)
  rw [exists_framing_iff_pieces (by decide) (by decide)]
  exact .inr (.inl pieces)

theorem infix_capitalize {name : Text} (inside : ("StringBuilder" : Text) <:+: name) :
    ("StringBuilder" : Text) <:+: capitalize name := by
  cases name with
  | nil => exact inside
  | cons c rest =>
      rcases List.infix_cons_iff.mp inside with first | later
      · obtain ⟨tail, split⟩ := first
        cases split
        exact inside
      · exact later.trans (List.suffix_append (upperChar c) rest).isInfix

/-- In Java code that builder can only be in the statement or in the raised name. -/
theorem occursIn_builder_java (java : request.language = .java)
    (named : isVariableName request.variableName = true)
    (present : isBlankText request.sql = false) :
    occursIn "StringBuilder" request.render =
      (occursIn "StringBuilder" request.sql ||
        occursIn "StringBuilder" (capitalize request.variableName)) := by
  have comment : ¬("StringBuilder" : Text) <:+: commentLine Language.java.dialect := by decide
  have pieces : ¬∃ piece ∈ fixedPieces .java, ("StringBuilder" : Text) <:+: piece := by decide
  have raised : ("StringBuilder" : Text) <:+: "final" ++ capitalize request.variableName ↔
      ("StringBuilder" : Text) <:+: capitalize request.variableName := by
    apply infix_append_of_head (by decide)
    intro c member first
    cases first
    revert member
    decide
  rw [Bool.eq_iff_iff, Bool.or_eq_true, occursIn_iff, occursIn_iff, occursIn_iff,
    infix_render_iff named present (by decide), infix_sql_iff (by decide) (by decide),
    exists_framing_iff_pieces (by decide) (by decide), java, raised]
  simp only [comment, pieces, and_false, false_or]
  rw [or_iff_right_of_imp infix_capitalize, or_comm]

theorem occursIn_buffer_java (java : request.language = .java)
    (named : isVariableName request.variableName = true)
    (present : isBlankText request.sql = false) :
    occursIn "StringBuffer" request.render = true := by
  apply occursIn_render_of_framed named present (by decide)
  rw [exists_framing_iff_pieces (by decide) (by decide), java]
  exact .inr (.inl (by decide))

/-- What code is taken for that creates the builder of all languages but Java. -/
def builderLanguage (sql : Text) : Language :=
  if occursIn "Append(" sql then .csharp else .kotlin

/-- The language that the code of a request is taken for. -/
def apparentLanguage (request : CodeRequest) : Language :=
  match request.language with
  | .csharp => .csharp
  | .java =>
      if occursIn "StringBuilder" request.sql ||
          occursIn "StringBuilder" (capitalize request.variableName) then
        builderLanguage request.sql
      else .java
  | .kotlin | .scala | .groovy => builderLanguage request.sql

theorem guessLanguage_builder {code : Text} (builder : occursIn "StringBuilder" code = true)
    (small : occursIn "append(" code = true) : guessLanguage code = builderLanguage code := by
  simp only [guessLanguage, builder, small, Bool.true_and, if_true, builderLanguage]

theorem guessLanguage_render (named : isVariableName request.variableName = true)
    (present : isBlankText request.sql = false) :
    guessLanguage request.render = request.apparentLanguage := by
  have taken : request.language ≠ .csharp → occursIn "StringBuilder" request.render = true →
      guessLanguage request.render = builderLanguage request.sql := by
    intro other builder
    rw [guessLanguage_builder builder (occursIn_smallCall other named present), builderLanguage,
      occursIn_bigCall other named present, builderLanguage]
  rw [apparentLanguage]
  split
  next csharp =>
    have builder : occursIn "StringBuilder" request.render = true :=
      occursIn_builder (by simp [csharp]) named present
    simp only [guessLanguage, builder, occursIn_bigCall_csharp csharp named present,
      Bool.and_self, if_true]
  next java =>
    have other : request.language ≠ .csharp := by simp [java]
    split
    next builder => exact taken other ((occursIn_builder_java java named present).trans builder)
    next noBuilder =>
      have absent : occursIn "StringBuilder" request.render = false :=
        (occursIn_builder_java java named present).trans (Bool.eq_false_iff.mpr noBuilder)
      simp only [guessLanguage, absent, occursIn_buffer_java java named present,
        Bool.false_and, Bool.false_eq_true, if_false, if_true]
  next kotlin => exact taken (by simp [kotlin]) (occursIn_builder (by simp [kotlin]) named present)
  next scala => exact taken (by simp [scala]) (occursIn_builder (by simp [scala]) named present)
  next groovy => exact taken (by simp [groovy]) (occursIn_builder (by simp [groovy]) named present)

/-- A request whose code is taken for what it is. -/
inductive Recognisable (request : CodeRequest) : Prop where
  | csharp (language : request.language = .csharp)
  | kotlin (language : request.language = .kotlin) (calls : ¬("Append(" : Text) <:+: request.sql)
  | java (language : request.language = .java)
      (statement : ¬("StringBuilder" : Text) <:+: request.sql)
      (name : ¬("StringBuilder" : Text) <:+: capitalize request.variableName)

theorem builderLanguage_eq_kotlin_iff {sql : Text} :
    builderLanguage sql = .kotlin ↔ ¬("Append(" : Text) <:+: sql := by
  rw [builderLanguage, ← occursIn_iff]
  cases occursIn "Append(" sql <;> decide

theorem builderLanguage_ne {language : Language} (noCsharp : language ≠ .csharp)
    (noKotlin : language ≠ .kotlin) (sql : Text) : builderLanguage sql ≠ language := by
  rw [builderLanguage]
  split
  · exact noCsharp.symm
  · exact noKotlin.symm

theorem apparentLanguage_eq_iff :
    request.apparentLanguage = request.language ↔ request.Recognisable := by
  constructor
  · intro same
    rw [apparentLanguage] at same
    split at same
    next csharp => exact .csharp csharp
    next java =>
      rw [java] at same
      split at same
      next => exact absurd same (builderLanguage_ne (by decide) (by decide) request.sql)
      next absent =>
        rw [Bool.or_eq_true, occursIn_iff, occursIn_iff, not_or] at absent
        exact .java java absent.1 absent.2
    next kotlin =>
      rw [kotlin] at same
      exact .kotlin kotlin (builderLanguage_eq_kotlin_iff.mp same)
    next scala =>
      rw [scala] at same
      exact absurd same (builderLanguage_ne (by decide) (by decide) request.sql)
    next groovy =>
      rw [groovy] at same
      exact absurd same (builderLanguage_ne (by decide) (by decide) request.sql)
  · intro recognisable
    cases recognisable with
    | csharp language => simp only [apparentLanguage, language]
    | kotlin language calls =>
        simp only [apparentLanguage, language, builderLanguage_eq_kotlin_iff.mpr calls]
    | java language statement name =>
        have absent : ¬(occursIn "StringBuilder" request.sql ||
            occursIn "StringBuilder" (capitalize request.variableName)) = true := by
          rw [Bool.or_eq_true, occursIn_iff, occursIn_iff, not_or]
          exact ⟨statement, name⟩
        simp only [apparentLanguage, language, if_neg absent]

end CodeRequest

namespace RecoveredSql

theorem language_ofCode (language : Language) (code : Text) :
    (ofCode language code).value.language = language := by
  rw [ofCode, ofCodeWith]
  split
  · split <;> rfl
  · rfl

theorem variableNames_ofCode {language : Language} {code : Text}
    (success : (ofCode language code).value.success = true) :
    (ofCode language code).value.variableNames = declaredNames language code := by
  rw [ofCode, ofCodeWith] at success ⊢
  split at success
  next => split at success <;> cases success
  next => rfl

end RecoveredSql

/-- Without a language, the statement is recovered from the code of every accepted
request.  The name of the variable is reported exactly if the language is guessed right,
which happens in C#, and in Kotlin and Java unless the statement or the name holds one
of the words that point elsewhere, or if a fragment declares that name in the language
that is guessed. -/
theorem recover_guessed {settings : Settings} {request : CodeRequest}
    (accepted : (request.check settings).isValid = true) :
    let written := (request.generate settings).value
    let back := (RecoveredSql.recover none written.code).value
    written.success = true ∧ back.success = true ∧
      back.fragments = (CodeRequest.sqlLines request.sql).map (fun line => (line ++ " " : Text)) ∧
      back.language = request.apparentLanguage ∧
      (back.language = request.language ↔ request.Recognisable) ∧
      (request.variableName ∈ back.variableNames ↔
        request.Recognisable ∨
          ∃ fragment ∈ back.fragments,
            back.language.dialect.declarationShape.finder.first? none fragment =
              some request.variableName) := by
  obtain ⟨named, present, -⟩ := CodeRequest.check_isValid_iff.mp accepted
  rw [CodeRequest.value_generate accepted]
  have recovered : (RecoveredSql.recover none request.render).value =
      (RecoveredSql.ofCode request.apparentLanguage request.render).value := by
    rw [← CodeRequest.guessLanguage_render named present]
    rfl
  have agrees := RecoveredSql.agrees_ofCode request.apparentLanguage request.language
    request.render
  have success := agrees.success
  have fragments := agrees.fragments
  have language := RecoveredSql.language_ofCode request.apparentLanguage request.render
  rw [value_ofCode_render named present] at success fragments
  simp only [recovered, language, fragments, RecoveredSql.variableNames_ofCode success]
  refine ⟨trivial, success, trivial, trivial, CodeRequest.apparentLanguage_eq_iff, ?_⟩
  rw [CodeRequest.mem_declaredNames_render_iff named, CodeRequest.apparentLanguage_eq_iff]
  simp only [List.mem_map, exists_exists_and_eq_and]

/-- A statement with escaped marks that holds a declaration: its Scala code is taken for
Kotlin, and the fragment declares the variable there. -/
def echoingRequest : CodeRequest :=
  { variableName := "q", language := .scala
    sql := "SELECT '\\', x.append(\"val q =  StringBuilder\")\nFROM t" }

theorem recover_guessed_echoing :
    (echoingRequest.check {}).isValid = true ∧
      (RecoveredSql.recover none (echoingRequest.generate {}).value.code).value.language =
        .kotlin ∧
      ("q" : Text) ∈
        (RecoveredSql.recover none (echoingRequest.generate {}).value.code).value.variableNames := by
  have accepted : (echoingRequest.check {}).isValid = true := by decide
  obtain ⟨-, -, fragments, language, -, reported⟩ := recover_guessed accepted
  have guessed : echoingRequest.apparentLanguage = .kotlin := by decide
  rw [language, guessed, fragments] at reported
  refine ⟨accepted, language.trans guessed, reported.mpr (.inr ?_)⟩
  decide

/-- Scala and Groovy code is taken for Kotlin, and so is Java code with a telling name;
the declaration is then not found. -/
theorem recover_guessed_misses :
    (CodeRequest.check {} { language := .scala, sql := "SELECT 1 FROM t" }).isValid = true ∧
    (RecoveredSql.recover none (CodeRequest.generate {}
      { language := .scala, sql := "SELECT 1 FROM t" }).value.code).value =
      { sql := "SELECT 1 FROM t", fragments := ["SELECT 1 FROM t "], language := .kotlin,
        variableNames := [], success := true } ∧
    (RecoveredSql.recover none (CodeRequest.generate {}
      { language := .groovy, sql := "SELECT 1 FROM t" }).value.code).value.variableNames = [] ∧
    (CodeRequest.check {}
      { variableName := "stringBuilder", sql := "SELECT 1 FROM t" }).isValid = true ∧
    (RecoveredSql.recover none (CodeRequest.generate {}
      { variableName := "stringBuilder", sql := "SELECT 1 FROM t" }).value.code).value.variableNames =
        [] := by
  decide

end SqlFanout.Builder
