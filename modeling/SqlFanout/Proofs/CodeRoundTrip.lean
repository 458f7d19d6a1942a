import SqlFanout.Builder.RoundTrip
import SqlFanout.Proofs.AppendCalls
import SqlFanout.Proofs.Letters

/-!
# Writing code and recovering the statement

The code written for an accepted request has one line with one call for each
line of the statement that is not blank; its other lines hold no call.  What is
recovered from it is therefore the statement on one line, and that is a fixed
point: writing it again, in any language, changes nothing any more.
-/

namespace SqlFanout.Builder

open Text

theorem isWord_of_isVariableName {name : Text} (valid : isVariableName name = true) :
    ∀ c ∈ name, isWord c = true := by
  cases name with
  | nil => simp [isVariableName] at valid
  | cons c rest =>
      simp only [isVariableName, Bool.and_eq_true, Bool.or_eq_true, beq_iff_eq,
        List.all_eq_true] at valid
      intro d member
      rcases List.mem_cons.mp member with same | later
      · subst same
        rcases valid.1 with letter | underscore
        · exact isWord_of_isLetter letter
        · subst underscore
          decide
      · exact valid.2 d later

theorem isVariableName_ne_nil {name : Text} (valid : isVariableName name = true) :
    name ≠ [] := by
  rintro rfl
  simp [isVariableName] at valid

theorem not_mem_of_isVariableName {name : Text} {mark : Char}
    (valid : isVariableName name = true) (noWord : isWord mark = false) :
    mark ∉ name := by
  intro member
  simp [isWord_of_isVariableName valid mark member] at noWord

namespace CodeRequest

theorem check_isValid_iff {settings : Settings} {request : CodeRequest} :
    (request.check settings).isValid = true ↔
      isVariableName request.variableName = true ∧
        isBlankText request.sql = false ∧
        (request.sql.length : Int) ≤ settings.maxSqlLength := by
  have named : isVariableName request.variableName = true →
      isBlankText request.variableName = false := by
    intro valid
    cases name : request.variableName with
    | nil => exact absurd name (isVariableName_ne_nil valid)
    | cons c rest =>
        have word : isWord c = true :=
          isWord_of_isVariableName valid c (by simp [name])
        simp [isBlankText, isBlank_of_isWord word]
  unfold check
  constructor
  · intro accepted
    split at accepted
    · simp [Verdict.refuse] at accepted
    · split at accepted
      · simp [Verdict.refuse] at accepted
      · split at accepted
        · simp [Verdict.refuse] at accepted
        · split at accepted
          · simp [Verdict.refuse] at accepted
          · simp_all
  · rintro ⟨valid, present, short⟩
    rw [if_neg (by simp [named valid]), if_neg (by simp [valid]),
      if_neg (by simp [present]), if_neg (by omega)]
    rfl

theorem value_generate {settings : Settings} {request : CodeRequest}
    (accepted : (request.check settings).isValid = true) :
    (request.generate settings).value =
      { code := request.render, lineCount := lineCount request.render,
        charCount := request.render.length, language := request.language,
        variableName := request.variableName, success := true } := by
  simp [generate, generateWith, accepted]

theorem sqlLines_eq (sql : Text) :
    sqlLines sql = ((lines sql).filter fun line => !isBlankText line).map trim := by
  unfold sqlLines
  rw [List.filter_map]
  congr 1
  apply List.filter_congr
  intro line _
  cases blank : isBlankText line with
  | true => simp [trim_of_blank blank]
  | false => simp [(tight_trim blank).nonempty]

theorem tight_of_mem_sqlLines {sql line : Text} (member : line ∈ sqlLines sql) :
    Tight line := by
  rw [sqlLines_eq] at member
  obtain ⟨source, kept, rfl⟩ := List.mem_map.mp member
  exact tight_trim (by simpa using (List.mem_filter.mp kept).2)

theorem lineFeed_not_mem_of_mem_sqlLines {sql line : Text}
    (member : line ∈ sqlLines sql) : '\n' ∉ line := by
  rw [sqlLines_eq] at member
  obtain ⟨source, kept, rfl⟩ := List.mem_map.mp member
  intro inLine
  exact not_mem_of_mem_cutAt (List.mem_filter.mp kept).1 (mem_of_mem_trim inLine)

theorem sqlLines_ne_nil {sql : Text} (present : isBlankText sql = false) :
    sqlLines sql ≠ [] := by
  obtain ⟨c, member, visible⟩ : ∃ c ∈ sql, isBlank c = false := by
    simpa [isBlankText] using present
  have noLineFeed : c ≠ '\n' := by
    rintro rfl
    exact absurd visible (by decide)
  obtain ⟨line, lineMember, inLine⟩ := exists_mem_cutAt member noLineFeed
  have kept : isBlankText line = false := by
    cases blank : isBlankText line with
    | false => rfl
    | true => simp [isBlankText_iff.mp blank c inLine] at visible
  rw [sqlLines_eq]
  intro empty
  have none := List.map_eq_nil_iff.mp empty
  simp only [List.filter_eq_nil_iff] at none
  exact none line lineMember (by simp [kept])

theorem sqlLines_of_tight {sql : Text} (tight : Tight sql) (oneLine : '\n' ∉ sql) :
    sqlLines sql = [sql] := by
  simp [sqlLines, lines, cutAt_of_not_mem oneLine, tight.trim_eq, tight.nonempty]

theorem not_mem_capitalize {name : Text} {mark : Char} (ascii : isAscii mark = true)
    (noLetter : isAsciiLetter mark = false) (absent : mark ∉ name) :
    mark ∉ capitalize name := by
  cases name with
  | nil => simp [capitalize]
  | cons c rest =>
      intro member
      rcases List.mem_append.mp member with raised | later
      · have same : c = mark := eq_of_mem_upperChar ascii noLetter raised
        exact absent (same ▸ List.mem_cons_self)
      · exact absent (List.mem_cons_of_mem c later)

/-- The comment that may stand first. -/
def commentLine (dialect : Dialect) : Text :=
  dialect.commentMark ++ " " ++ dialect.displayName ++ " " ++ dialect.builderClass ++ " SQL"

/-- What a declaration says behind its equals sign. -/
def creation : Language → Text
  | .java => "new StringBuffer();"
  | .csharp => "new StringBuilder();"
  | .kotlin => "StringBuilder()"
  | .scala => "new StringBuilder()"
  | .groovy => "new StringBuilder()"

/-- The line that declares a builder. -/
def declarationLine (language : Language) (name : Text) : Text :=
  language.dialect.declarationShape.opener ++ (" " ++ (name ++ (" = " ++ creation language)))

theorem declaration_fill (language : Language) (name : Text) :
    language.dialect.declaration.fill (slotValue language.dialect name) =
      declarationLine language name := by
  cases language <;> rfl

/-- The word that the last line begins with. -/
def finalOpener : Language → Text
  | .java => "String"
  | .csharp => "string"
  | .kotlin => "val"
  | .scala => "val"
  | .groovy => "def"

/-- The line that reads a builder. -/
def finalLine (language : Language) (name : Text) : Text :=
  (finalOpener language ++ (" final" ++ (capitalize name ++ (" = " ++ name)))) ++
    '.' :: (language.dialect.readMethod ++ language.dialect.statementEnd)

theorem finalization_fill (language : Language) (name : Text) :
    language.dialect.finalization.fill (slotValue language.dialect name) =
      finalLine language name := by
  simp only [finalLine, List.append_assoc]
  cases language <;> rfl

theorem codeLines_eq (request : CodeRequest) :
    request.codeLines =
      (if request.addComments then [commentLine request.language.dialect] else []) ++
        [declarationLine request.language request.variableName] ++
        (if request.formatCode then [[]] else []) ++
        (sqlLines request.sql).map (fun line =>
          appendCall request.language.dialect request.variableName (escape line ++ " ")) ++
        (if request.formatCode then [[]] else []) ++
        [finalLine request.language request.variableName] := by
  unfold codeLines
  simp only [declaration_fill, finalization_fill, commentLine]

/-- The calls that one line of code makes. -/
abbrev callsIn (language : Language) (line : Text) : List Text :=
  (callFinder language.dialect.appendMethod).findAll line

theorem callFinder_silent (language : Language) {stretch : Text} (noDot : '.' ∉ stretch)
    (before : Option Char) (c : Char) (tail : Text) (member : c ∈ stretch) :
    callFinder language.dialect.appendMethod before (c :: tail) = none :=
  callFinder_of_ne_dot _ before (fun same => noDot (same ▸ member)) tail

theorem callsIn_of_no_dot (language : Language) {line : Text} (noDot : '.' ∉ line) :
    callsIn language line = [] :=
  Finder.findAllFrom_eq_nil (callFinder_silent language noDot) none

theorem callsIn_commentLine (language : Language) :
    callsIn language (commentLine language.dialect) = [] := by
  apply callsIn_of_no_dot
  cases language <;> decide

theorem callsIn_declarationLine (language : Language) {name : Text}
    (noDot : '.' ∉ name) : callsIn language (declarationLine language name) = [] := by
  have fixed : '.' ∉ language.dialect.declarationShape.opener ∧
      '.' ∉ creation language := by
    cases language <;> decide
  apply callsIn_of_no_dot
  simp only [declarationLine, List.mem_append, not_or]
  exact ⟨fixed.1, by decide, noDot, by decide, fixed.2⟩

/-- The dot of the last line is the one in front of the method. -/
theorem dot_not_mem_assignment (language : Language) {name : Text} (noDot : '.' ∉ name) :
    '.' ∉ finalOpener language ++ (" final" ++ (capitalize name ++ (" = " ++ name))) := by
  have opener : '.' ∉ finalOpener language := by
    cases language <;> decide
  have raised : '.' ∉ capitalize name := not_mem_capitalize (by decide) (by decide) noDot
  simp only [List.mem_append, not_or]
  exact ⟨opener, by decide, raised, by decide, noDot⟩

/-- The method that reads the builder is not the one that appends to it. -/
theorem callsIn_finalLine (language : Language) {name : Text} (noDot : '.' ∉ name) :
    callsIn language (finalLine language name) = [] := by
  have silent : ∀ before, callFinder language.dialect.appendMethod before
      ('.' :: (language.dialect.readMethod ++ language.dialect.statementEnd)) = none := by
    intro before
    cases language <;> rfl
  have ending : '.' ∉ language.dialect.readMethod ++ language.dialect.statementEnd := by
    cases language <;> decide
  rw [callsIn, Finder.findAll_eq, finalLine,
    Finder.findAllFrom_skip (callFinder_silent language (dot_not_mem_assignment language noDot)),
    Finder.findAllFrom_plain (silent _)]
  exact Finder.findAllFrom_eq_nil (callFinder_silent language ending) _

theorem callsIn_appendCall (language : Language) {name : Text} (noDot : '.' ∉ name)
    (content : Text) :
    callsIn language (appendCall language.dialect name (escape content)) =
      [escape content] := by
  have ending : '.' ∉ language.dialect.statementEnd := by
    cases language <;> decide
  have shape : appendCall language.dialect name (escape content) =
      name ++ ('.' :: (language.dialect.appendMethod ++ "(\"" ++ escape content ++ "\")") ++
        language.dialect.statementEnd) := by
    simp [appendCall]
  have found := callFinder_call language.dialect.appendMethod (lastOr none name) content
    language.dialect.statementEnd
  rw [callsIn, Finder.findAll_eq, shape,
    Finder.findAllFrom_skip (callFinder_silent language noDot), List.cons_append,
    Finder.findAllFrom_found _ _ found,
    Finder.findAllFrom_eq_nil (callFinder_silent language ending)]

theorem lineFeed_not_mem_declarationLine (language : Language) {name : Text}
    (absent : '\n' ∉ name) : '\n' ∉ declarationLine language name := by
  have fixed : '\n' ∉ language.dialect.declarationShape.opener ∧
      '\n' ∉ creation language := by
    cases language <;> decide
  simp only [declarationLine, List.mem_append, not_or]
  exact ⟨fixed.1, by decide, absent, by decide, fixed.2⟩

theorem lineFeed_not_mem_finalLine (language : Language) {name : Text}
    (absent : '\n' ∉ name) : '\n' ∉ finalLine language name := by
  have fixed : '\n' ∉ finalOpener language ∧
      '\n' ∉ '.' :: (language.dialect.readMethod ++ language.dialect.statementEnd) := by
    cases language <;> decide
  have raised : '\n' ∉ capitalize name :=
    not_mem_capitalize (by decide) (by decide) absent
  simp only [finalLine, List.mem_append, not_or]
  exact ⟨⟨fixed.1, by decide, raised, by decide, absent⟩, fixed.2⟩

theorem lineFeed_not_mem_appendCall (language : Language) {name content : Text}
    (absent : '\n' ∉ name) (noContent : '\n' ∉ content) :
    '\n' ∉ appendCall language.dialect name content := by
  have fixed : '\n' ∉ language.dialect.appendMethod ∧
      '\n' ∉ language.dialect.statementEnd := by
    cases language <;> decide
  simp only [appendCall, List.mem_append, not_or]
  exact ⟨⟨⟨⟨⟨⟨absent, by decide⟩, fixed.1⟩, by decide⟩, noContent⟩, by decide⟩, fixed.2⟩

theorem lineFeed_not_mem_codeLines {request : CodeRequest}
    (named : isVariableName request.variableName = true) :
    ∀ line ∈ request.codeLines, '\n' ∉ line := by
  have absent : '\n' ∉ request.variableName :=
    not_mem_of_isVariableName named (by decide)
  have noComment : '\n' ∉ commentLine request.language.dialect := by
    cases request.language <;> decide
  intro line member
  rw [codeLines_eq] at member
  simp only [List.mem_append, List.mem_map, List.mem_singleton] at member
  rcases member with ((((comment | declaration) | gap) | call) | gap) | final
  · cases shown : request.addComments <;> simp_all
  · exact declaration ▸ lineFeed_not_mem_declarationLine request.language absent
  · cases spaced : request.formatCode <;> simp_all
  · obtain ⟨source, sourceMember, rfl⟩ := call
    apply lineFeed_not_mem_appendCall request.language absent
    have noSource : '\n' ∉ escape source :=
      not_mem_escape (by decide) (lineFeed_not_mem_of_mem_sqlLines sourceMember)
    simpa using noSource
  · cases spaced : request.formatCode <;> simp_all
  · exact final ▸ lineFeed_not_mem_finalLine request.language absent

theorem lines_render {request : CodeRequest}
    (named : isVariableName request.variableName = true) :
    lines request.render = request.codeLines ++ [[]] := by
  apply lines_unlines
  · simp [codeLines]
  · exact lineFeed_not_mem_codeLines named

theorem callsIn_render {request : CodeRequest}
    (named : isVariableName request.variableName = true) :
    (lines request.render).flatMap (callsIn request.language) =
      (sqlLines request.sql).map fun line => escape (line ++ " ") := by
  have noDot : '.' ∉ request.variableName := not_mem_of_isVariableName named (by decide)
  have comment : (if request.addComments then
      [commentLine request.language.dialect] else []).flatMap
        (callsIn request.language) = [] := by
    split <;> simp [callsIn_commentLine]
  have empty : callsIn request.language [] = [] := rfl
  have gap : (if request.formatCode then [([] : Text)] else []).flatMap
      (callsIn request.language) = [] := by
    split <;> simp [empty]
  have calls : ((sqlLines request.sql).map fun line =>
        appendCall request.language.dialect request.variableName (escape line ++ " ")).flatMap
          (callsIn request.language) =
      (sqlLines request.sql).map fun line => escape (line ++ " ") := by
    rw [List.flatMap_map, List.map_eq_flatMap]
    apply List.flatMap_congr
    intro line _
    have spaced : escape line ++ " " = escape (line ++ " ") := by
      rw [escape_append]
      rfl
    rw [spaced, callsIn_appendCall request.language noDot]
  rw [lines_render named, codeLines_eq]
  simp only [List.flatMap_append, List.flatMap_singleton, comment, gap, calls, empty,
    callsIn_declarationLine request.language noDot,
    callsIn_finalLine request.language noDot, List.nil_append, List.append_nil]

/-- The calls of the code append the lines of the statement, each with a space
behind it. -/
theorem appendedTexts_render {request : CodeRequest}
    (named : isVariableName request.variableName = true) :
    appendedTexts request.language request.render =
      (sqlLines request.sql).map fun line => (line ++ " " : Text) := by
  have freed : ((sqlLines request.sql).map fun line => escape (line ++ " ")).map unescape =
      (sqlLines request.sql).map fun line => (line ++ " " : Text) := by
    simp [unescape_escape]
  rw [appendedTexts, callsIn_render named, freed, List.filter_eq_self]
  intro fragment member
  obtain ⟨line, lineMember, rfl⟩ := List.mem_map.mp member
  have visible : isBlankText line = false := (tight_of_mem_sqlLines lineMember).not_blank
  simp only [isBlankText, List.all_append, Bool.not_eq_true', Bool.and_eq_false_iff]
  exact .inl visible

theorem read_declaredName {name : Text} (valid : isVariableName name = true)
    (rest : Text) :
    afterBlanks? (" " ++ (name ++ (" = " ++ rest))) = some (name ++ (" = " ++ rest)) ∧
      (name ++ (" = " ++ rest)).takeWhile isWord = name ∧
      trimLeft ((name ++ (" = " ++ rest)).dropWhile isWord) = '=' :: ' ' :: rest := by
  have words := isWord_of_isVariableName valid
  have noSpace : isWord ' ' = false := by decide
  have first : ∀ c ∈ (name ++ (" = " ++ rest)).head?, isBlank c = false := by
    intro c head
    cases name with
    | nil => exact absurd rfl (isVariableName_ne_nil valid)
    | cons d name =>
        have same : d = c := by simpa using head
        exact isBlank_of_isWord (words c (same ▸ List.mem_cons_self))
  refine ⟨?_, ?_, ?_⟩
  · simpa [afterBlanks?, show isBlank ' ' = true by decide] using trimLeft_eq_self first
  · rw [List.takeWhile_append_of_pos words]
    simp [noSpace]
  · rw [List.dropWhile_append_of_pos words]
    simp [noSpace, trimLeft, show isBlank ' ' = true by decide,
      show isBlank '=' = false by decide]

theorem finder_declarationLine (language : Language) {name : Text}
    (valid : isVariableName name = true) (before : Option Char) :
    ∃ tail, language.dialect.declarationShape.finder before
      (declarationLine language name) = some (name, tail) := by
  obtain ⟨afterBlank, taken, trimmed⟩ := read_declaredName valid (creation language)
  have created : language.dialect.declarationShape.creator = [] ∨
      ∃ tail, DeclarationShape.afterWords? language.dialect.declarationShape.creator
        (trimLeft (' ' :: creation language)) = some tail := by
    cases language
    · exact .inl rfl
    · exact .inl rfl
    · exact .inr ⟨_, rfl⟩
    · exact .inr ⟨_, rfl⟩
    · exact .inr ⟨_, rfl⟩
  obtain ⟨c, rest, nonempty⟩ := List.exists_cons_of_ne_nil (isVariableName_ne_nil valid)
  unfold DeclarationShape.finder
  rw [declarationLine, afterStart?_eq_some_iff.mpr rfl]
  simp only [afterBlank, taken, trimmed]
  rcases created with none | ⟨tail, found⟩
  · exact ⟨' ' :: creation language, by simp [none, nonempty]⟩
  · cases empty : language.dialect.declarationShape.creator.isEmpty with
    | true => exact ⟨' ' :: creation language, by simp [nonempty]⟩
    | false => exact ⟨tail, by simp [nonempty, found]⟩

theorem first?_declarationLine (language : Language) {name : Text}
    (valid : isVariableName name = true) :
    language.dialect.declarationShape.finder.first? none (declarationLine language name) =
      some name := by
  obtain ⟨tail, found⟩ := finder_declarationLine language valid none
  obtain ⟨c, rest, shape⟩ : ∃ c rest, declarationLine language name = c :: rest := by
    apply List.exists_cons_of_ne_nil
    cases language <;> simp [declarationLine]
  rw [shape] at found ⊢
  rw [Finder.first?, found]

theorem first?_commentLine (language : Language) :
    language.dialect.declarationShape.finder.first? none
      (commentLine language.dialect) = none := by
  cases language <;> decide

/-- The declaration is the first line that declares a builder. -/
theorem head?_declaredNames_render {request : CodeRequest}
    (named : isVariableName request.variableName = true) :
    (declaredNames request.language request.render).head? =
      some request.variableName := by
  have comment : (if request.addComments then
      [commentLine request.language.dialect] else []).filterMap
        (request.language.dialect.declarationShape.finder.first? none) = [] := by
    split <;> simp [first?_commentLine]
  rw [declaredNames, lines_render named, codeLines_eq]
  simp [List.filterMap_append, comment, first?_declarationLine request.language named,
    List.eraseDups_cons]

end CodeRequest

theorem join_spaced {parts : List Text} (some : parts ≠ []) :
    join " " (parts.map fun part => (part ++ " " : Text)) = join "  " parts ++ " " := by
  induction parts with
  | nil => exact absurd rfl some
  | cons part parts induction =>
      cases parts with
      | nil => simp [join]
      | cons next parts =>
          have rest := induction (by simp)
          simp only [join, List.map_cons, List.intercalate_cons_cons,
            List.append_assoc] at rest ⊢
          rw [rest]
          rfl

/-- The spaces behind the lines and those between them make two spaces, and the
last one is trimmed away. -/
theorem joinFragments_spaced {parts : List Text} (some : parts ≠ [])
    (tight : ∀ part ∈ parts, Tight part) :
    joinFragments (parts.map fun part => (part ++ " " : Text)) = join "  " parts := by
  have space : isBlank ' ' = true := by decide
  rw [joinFragments, join_spaced some]
  exact (Tight.join "  " some tight).trim_append " " (by simpa using space)

theorem isBlankText_render {request : CodeRequest}
    (named : isVariableName request.variableName = true) :
    isBlankText request.render = false := by
  obtain ⟨c, rest, name⟩ := List.exists_cons_of_ne_nil (isVariableName_ne_nil named)
  have inName : c ∈ request.variableName := by simp [name]
  have visible : isBlank c = false :=
    isBlank_of_isWord (isWord_of_isVariableName named c inName)
  have inDeclaration :
      c ∈ CodeRequest.declarationLine request.language request.variableName := by
    simp [CodeRequest.declarationLine, inName]
  have inCode : c ∈ request.render :=
    List.mem_append_left _ (mem_join_of_mem "\n"
      (by simp [CodeRequest.codeLines_eq]) inDeclaration)
  cases blank : isBlankText request.render with
  | false => rfl
  | true => simp [isBlankText_iff.mp blank c inCode] at visible

theorem value_ofCode_render {request : CodeRequest}
    (named : isVariableName request.variableName = true)
    (present : isBlankText request.sql = false) :
    (RecoveredSql.ofCode request.language request.render).value =
      { sql := join "  " (CodeRequest.sqlLines request.sql),
        fragments := (CodeRequest.sqlLines request.sql).map fun line => (line ++ " " : Text),
        language := request.language,
        variableNames := declaredNames request.language request.render,
        success := true } := by
  have some : CodeRequest.sqlLines request.sql ≠ [] := CodeRequest.sqlLines_ne_nil present
  have collected : RecoveredSql.fragmentsOf RecoveredSql.collect request.language
      request.render =
        .ok ((CodeRequest.sqlLines request.sql).map fun line => (line ++ " " : Text)) := by
    rw [RecoveredSql.fragmentsOf, isBlankText_render named, RecoveredSql.collect,
      CodeRequest.appendedTexts_render named]
    cases kept : CodeRequest.sqlLines request.sql with
    | nil => exact absurd kept some
    | cons line lines => rfl
  have joined := joinFragments_spaced some fun line member =>
    CodeRequest.tight_of_mem_sqlLines member
  simp only [RecoveredSql.ofCode, RecoveredSql.ofCodeWith, collected,
    Logged.value_bind, Logged.value_pure, joined]

/-- Writing an accepted request as code and recovering the statement from it
gives the lines that are not blank, trimmed, each with a space behind it, and
the name of the builder. -/
theorem recover_written_statement (settings : Settings) (request : CodeRequest)
    (accepted : (request.check settings).isValid = true) :
    let written := (request.generate settings).value
    let back := (RecoveredSql.ofCode request.language written.code).value
    let kept := ((lines request.sql).filter fun line => !isBlankText line).map trim
    written.success = true ∧ back.success = true ∧
      back.fragments = kept.map (fun line => (line ++ " " : Text)) ∧
      back.sql = join "  " kept ∧
      back.variableNames.head? = some request.variableName := by
  obtain ⟨named, present, -⟩ := CodeRequest.check_isValid_iff.mp accepted
  intro written back kept
  have keptEq : kept = CodeRequest.sqlLines request.sql :=
    (CodeRequest.sqlLines_eq request.sql).symm
  have backEq : back = (RecoveredSql.ofCode request.language request.render).value := by
    simp only [back, written, CodeRequest.value_generate accepted]
  rw [backEq, keptEq, value_ofCode_render named present]
  refine ⟨?_, rfl, rfl, rfl, CodeRequest.head?_declaredNames_render named⟩
  simp only [written, CodeRequest.value_generate accepted]

/-- A statement with quotes, backslashes, and texts that look like a call and
like a declaration. -/
def hostileRequest : CodeRequest :=
  { variableName := "val", language := .scala,
    sql := " SELECT '\\\"' \n\n x.append(\"y\") \\\nval z = new StringBuilder" }

theorem recover_written_statement_hostile :
    (hostileRequest.check {}).isValid = true ∧
      (RecoveredSql.ofCode .scala (hostileRequest.generate {}).value.code).value.fragments =
        [("SELECT '\\\"' " : Text), ("x.append(\"y\") \\ " : Text),
          ("val z = new StringBuilder " : Text)] := by
  have accepted : (hostileRequest.check {}).isValid = true := by decide
  refine ⟨accepted, ?_⟩
  exact (recover_written_statement {} hostileRequest accepted).2.2.1.trans (by decide)

/-- The lines of a statement that are not blank, trimmed and joined by two
spaces. -/
def oneLine (sql : Text) : Text :=
  join "  " (((lines sql).filter fun line => !isBlankText line).map trim)

theorem oneLine_eq (sql : Text) : oneLine sql = join "  " (CodeRequest.sqlLines sql) := by
  rw [oneLine, CodeRequest.sqlLines_eq]

theorem tight_oneLine {sql : Text} (present : isBlankText sql = false) :
    Tight (oneLine sql) := by
  rw [oneLine_eq]
  exact Tight.join "  " (CodeRequest.sqlLines_ne_nil present) fun line member =>
    CodeRequest.tight_of_mem_sqlLines member

theorem lineFeed_not_mem_oneLine (sql : Text) : '\n' ∉ oneLine sql := by
  rw [oneLine_eq]
  intro member
  rcases mem_join member with inSeparator | ⟨line, lineMember, inLine⟩
  · exact absurd inSeparator (by decide)
  · exact CodeRequest.lineFeed_not_mem_of_mem_sqlLines lineMember inLine

theorem oneLine_oneLine {sql : Text} (present : isBlankText sql = false) :
    oneLine (oneLine sql) = oneLine sql := by
  rw [oneLine_eq (oneLine sql), CodeRequest.sqlLines_of_tight (tight_oneLine present)
    (lineFeed_not_mem_oneLine sql)]
  simp [join]

/-- Whatever language the code of an accepted request is taken to be in, the
statement comes back on one line. -/
theorem recover_generate {settings : Settings} {request : CodeRequest}
    (accepted : (request.check settings).isValid = true) (language : Option Language) :
    let back := (RecoveredSql.recover language (request.generate settings).value.code).value
    back.success = true ∧ back.sql = oneLine request.sql := by
  obtain ⟨named, present, -⟩ := CodeRequest.check_isValid_iff.mp accepted
  have agrees := RecoveredSql.agrees_ofCode (language.getD (guessLanguage request.render))
    request.language request.render
  rw [value_ofCode_render named present, ← oneLine_eq] at agrees
  rw [CodeRequest.value_generate accepted]
  exact ⟨agrees.success, agrees.sql⟩

theorem value_roundTrip_cons {settings : Settings} {variableName sql : Text}
    (explicit : Bool) (language : Language) (languages : List Language)
    (accepted : (CodeRequest.check settings
      { variableName := variableName, language := language, sql := sql }).isValid = true) :
    ∃ leg : Leg,
      (roundTrip settings variableName explicit sql (language :: languages)).value =
        leg :: (roundTrip settings variableName explicit (oneLine sql) languages).value ∧
      leg.code.language = language ∧ leg.code.success = true ∧
      leg.back.success = true ∧ leg.back.sql = oneLine sql := by
  obtain ⟨success, recovered⟩ :=
    recover_generate accepted (if explicit then some language else none)
  refine ⟨⟨(CodeRequest.generate settings
    { variableName := variableName, language := language, sql := sql }).value, _⟩,
    ?_, ?_, ?_, success, recovered⟩
  · simp only [roundTrip, Logged.value_bind, success, if_true, Logged.value_pure, recovered]
  · simp only [CodeRequest.value_generate accepted]
  · simp only [CodeRequest.value_generate accepted]

/-- Every leg of a round trip succeeds and recovers the statement on one line, if
that is not too long to be accepted itself. -/
theorem roundTrip_recovers_oneLine (settings : Settings) (variableName sql : Text)
    (explicit : Bool) (languages : List Language)
    (accepted : (CodeRequest.check settings
      { variableName := variableName, sql := sql }).isValid = true)
    (short : ((oneLine sql).length : Int) ≤ settings.maxSqlLength) :
    let legs := (roundTrip settings variableName explicit sql languages).value
    legs.map (·.code.language) = languages ∧
      ∀ leg ∈ legs, leg.code.success = true ∧ leg.back.success = true ∧
        leg.back.sql = oneLine sql := by
  induction languages generalizing sql with
  | nil => simp [roundTrip]
  | cons language languages induction =>
      obtain ⟨named, present, fits⟩ := CodeRequest.check_isValid_iff.mp accepted
      obtain ⟨leg, step, legLanguage, written, success, recovered⟩ :=
        value_roundTrip_cons explicit language languages
          (CodeRequest.check_isValid_iff.mpr ⟨named, present, fits⟩)
      have fixed : oneLine (oneLine sql) = oneLine sql := oneLine_oneLine present
      obtain ⟨laterLanguages, laterLegs⟩ := induction (oneLine sql)
        (CodeRequest.check_isValid_iff.mpr
          ⟨named, (tight_oneLine present).not_blank, short⟩)
        (by rw [fixed]; exact short)
      rw [step]
      refine ⟨by simp only [List.map_cons, legLanguage, laterLanguages], ?_⟩
      intro other member
      rcases List.mem_cons.mp member with first | later
      · exact first ▸ ⟨written, success, recovered⟩
      · exact fixed ▸ laterLegs other later

/-- Four legs with a repeated language, all of them taken for the wrong one. -/
theorem roundTrip_recovers_oneLine_guessed :
    (CodeRequest.check {}
        { variableName := "q", sql := " SELECT '\\\"'\n\n FROM t" }).isValid = true ∧
      ((oneLine " SELECT '\\\"'\n\n FROM t").length : Int) ≤ Settings.maxSqlLength {} ∧
      ∀ leg ∈ (roundTrip {} "q" false " SELECT '\\\"'\n\n FROM t"
          [.scala, .groovy, .scala, .java]).value,
        leg.back.sql = ("SELECT '\\\"'  FROM t" : Text) := by
  have accepted : (CodeRequest.check {}
      { variableName := "q", sql := " SELECT '\\\"'\n\n FROM t" }).isValid = true := by
    decide
  have short : ((oneLine " SELECT '\\\"'\n\n FROM t").length : Int) ≤
      Settings.maxSqlLength {} := by
    decide
  refine ⟨accepted, short, ?_⟩
  intro leg member
  exact ((roundTrip_recovers_oneLine {} "q" _ false _ accepted short).2 leg member).2.2.trans
    (by decide)

end SqlFanout.Builder
