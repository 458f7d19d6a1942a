import SqlFanout.Proofs.Declarations

/-!
# Line counts

A statement is cut into lines at line feeds, and so is the code that is written for it.
The lines of code are counted at all line boundaries, however, so that a boundary of
another kind inside of a line of the statement counts as a line of its own
(`lineCount_unlines`), although nothing but a literal is broken by it
(`lineCount_written`).
-/

namespace SqlFanout.Text

theorem isBlank_of_isLineBreak {c : Char} (boundary : isLineBreak c = true) :
    isBlank c = true := by
  simp only [isLineBreak, isBlank, isWhiteSpace, Bool.or_eq_true, Bool.and_eq_true,
    decide_eq_true_eq, beq_iff_eq] at boundary ⊢
  split <;> simp <;> omega

theorem isLineBreak_of_visible {c : Char} (visible : isBlank c = false) :
    isLineBreak c = false := by
  cases boundary : isLineBreak c with
  | false => rfl
  | true => simp [isBlank_of_isLineBreak boundary] at visible

theorem countP_isLineBreak_of_visible {text : Text} (visible : ∀ c ∈ text, isBlank c = false) :
    text.countP isLineBreak = 0 := by
  apply List.countP_eq_zero.mpr
  intro c member
  simp [isLineBreak_of_visible (visible c member)]

theorem lineCountFrom_cons (started : Bool) {c : Char} {rest : Text}
    (single : c = '\r' → rest.head? ≠ some '\n') :
    lineCountFrom started (c :: rest) =
      if isLineBreak c then 1 + lineCountFrom false rest else lineCountFrom true rest := by
  rw [lineCountFrom.eq_def]
  split
  next nil => cases nil
  next tail same =>
    obtain ⟨rfl, rfl⟩ := List.cons.inj same
    exact absurd rfl (single rfl)
  next d tail _ same =>
    obtain ⟨rfl, rfl⟩ := List.cons.inj same
    rfl

/-- A text without line feeds counts once with the line feed behind it, and once more for
each boundary in it. -/
theorem lineCountFrom_line {line : Text} (absent : '\n' ∉ line)
    (last : line.getLast? ≠ some '\r') (started : Bool) (rest : Text) :
    lineCountFrom started (line ++ '\n' :: rest) =
      line.countP isLineBreak + (1 + lineCountFrom false rest) := by
  induction line generalizing started with
  | nil => simp [lineCountFrom_cons, show isLineBreak '\n' = true by decide]
  | cons c line induction =>
      obtain ⟨noFeed, later⟩ := not_or.mp (List.mem_cons.not.mp absent)
      have single : c = '\r' → (line ++ '\n' :: rest).head? ≠ some '\n' := by
        intro first
        cases line with
        | nil => exact absurd (congrArg some first) last
        | cons d line => simpa using Ne.symm (List.ne_of_not_mem_cons later)
      have laterLast : line.getLast? ≠ some '\r' := by
        cases line with
        | nil => simp
        | cons d line => simpa [List.getLast?_cons] using last
      rw [List.cons_append, lineCountFrom_cons started single, induction later laterLast,
        induction later laterLast, List.countP_cons]
      split
      · omega
      · omega

theorem unlines_cons_cons (part next : Text) (parts : List Text) :
    unlines (part :: next :: parts) = part ++ '\n' :: unlines (next :: parts) := by
  simp [unlines, join, List.intercalate_cons_cons]

/-- Lines below each other are counted one by one, and so are the boundaries in them. -/
theorem lineCount_unlines {parts : List Text} (nonempty : parts ≠ [])
    (absent : ∀ part ∈ parts, '\n' ∉ part) (last : ∀ part ∈ parts, part.getLast? ≠ some '\r') :
    lineCount (unlines parts ++ "\n") = parts.length + parts.flatten.countP isLineBreak := by
  induction parts with
  | nil => exact absurd rfl nonempty
  | cons part parts induction =>
      obtain ⟨partAbsent, laterAbsent⟩ := List.forall_mem_cons.mp absent
      obtain ⟨partLast, laterLast⟩ := List.forall_mem_cons.mp last
      have here := lineCountFrom_line partAbsent partLast false
      cases parts with
      | nil =>
          have counted := here []
          simp only [lineCountFrom] at counted
          simpa [lineCount, unlines, join, Nat.add_comm] using counted
      | cons next parts =>
          have later := induction (by simp) laterAbsent laterLast
          have inside : (part :: next :: parts).flatten.countP isLineBreak =
              part.countP isLineBreak + (next :: parts).flatten.countP isLineBreak :=
            List.countP_append
          have longer : (part :: next :: parts).length = 1 + (next :: parts).length :=
            Nat.add_comm _ _
          rw [lineCount] at later ⊢
          rw [unlines_cons_cons, List.append_assoc, List.cons_append, here, later, inside,
            longer]
          omega

end SqlFanout.Text

namespace SqlFanout.Builder

open Text

namespace CodeRequest

theorem length_sqlLines (sql : Text) :
    (sqlLines sql).length = (lines sql).countP fun line => !isBlankText line := by
  rw [sqlLines_eq, List.length_map, List.countP_eq_length_filter]

/-- The number of lines that are written for a request: one for each line of the statement
that is not blank, two around them, and those that are asked for. -/
def emittedLines (request : CodeRequest) : Nat :=
  (lines request.sql).countP (fun line => !isBlankText line) + 2 +
    (if request.addComments then 1 else 0) + (if request.formatCode then 2 else 0)

theorem length_codeLines (request : CodeRequest) :
    request.codeLines.length = request.emittedLines := by
  have gaps : (if request.formatCode then 1 else 0) + (if request.formatCode then 1 else 0) =
      if request.formatCode then 2 else 0 := by
    split <;> rfl
  rw [codeLines_eq, emittedLines, ← length_sqlLines, ← gaps]
  simp only [List.length_append, List.length_map, List.length_singleton, apply_ite List.length,
    List.length_nil]
  omega

private theorem getLast?_append_ne {c : Char} {ending : Text} (front : Text)
    (last : ending.getLast? = some c) (other : c ≠ '\r') :
    (front ++ ending).getLast? ≠ some '\r' := by
  simp [List.getLast?_append, last, other]

theorem getLast?_codeLines (request : CodeRequest) :
    ∀ line ∈ request.codeLines, line.getLast? ≠ some '\r' := by
  intro line member
  rw [codeLines_eq] at member
  simp only [List.mem_append, List.mem_map, List.mem_singleton] at member
  rcases member with ((((comment | declaration) | gap) | call) | gap) | final
  · have same : line = commentLine request.language.dialect := by
      cases shown : request.addComments <;> simp_all
    rw [same]
    cases request.language <;> decide
  · have shape : line = (request.language.dialect.declarationShape.opener ++
        (" " ++ (request.variableName ++ " = "))) ++ creation request.language := by
      simp [declaration, declarationLine]
    rw [shape]
    cases request.language <;> exact getLast?_append_ne _ rfl (by decide)
  · have empty : line = [] := by
      cases spaced : request.formatCode <;> simp_all
    simp [empty]
  · obtain ⟨source, -, rfl⟩ := call
    rw [appendCall, List.append_assoc]
    cases request.language <;> exact getLast?_append_ne _ rfl (by decide)
  · have empty : line = [] := by
      cases spaced : request.formatCode <;> simp_all
    simp [empty]
  · rw [final, finalLine]
    cases request.language <;> exact getLast?_append_ne _ rfl (by decide)

theorem countP_isLineBreak_escape (text : Text) :
    (escape text).countP isLineBreak = text.countP isLineBreak := by
  induction text with
  | nil => rfl
  | cons c text induction =>
      rw [escape_cons, List.countP_append, induction]
      by_cases special : c = '\\' ∨ c = '\x22'
      · rw [escapeChar_of_special special]
        rcases special with same | same <;> subst same <;> simp [isLineBreak]
      · rw [escapeChar_of_plain special]
        simp [List.countP_cons, Nat.add_comm]

theorem countP_isLineBreak_declarationLine (language : Language) {name : Text}
    (visible : ∀ c ∈ name, isBlank c = false) :
    (declarationLine language name).countP isLineBreak = 0 := by
  have fixed : language.dialect.declarationShape.opener.countP isLineBreak = 0 ∧
      (creation language).countP isLineBreak = 0 := by
    cases language <;> decide
  have space : (" " : Text).countP isLineBreak = 0 := by decide
  have equals : (" = " : Text).countP isLineBreak = 0 := by decide
  simp only [declarationLine, List.countP_append, fixed.1, fixed.2, space, equals,
    countP_isLineBreak_of_visible visible]

theorem countP_isLineBreak_finalLine (language : Language) {name : Text}
    (visible : ∀ c ∈ name, isBlank c = false) :
    (finalLine language name).countP isLineBreak = 0 := by
  have fixed : (finalOpener language).countP isLineBreak = 0 ∧
      ('.' :: (language.dialect.readMethod ++ language.dialect.statementEnd)).countP
        isLineBreak = 0 := by
    cases language <;> decide
  have start : (" final" : Text).countP isLineBreak = 0 := by decide
  have equals : (" = " : Text).countP isLineBreak = 0 := by decide
  simp only [finalLine, List.countP_append, fixed.1, fixed.2, start, equals,
    countP_isLineBreak_of_visible visible,
    countP_isLineBreak_of_visible (isBlank_of_mem_capitalize visible)]

/-- Escaping a line neither adds a boundary to it nor takes one away. -/
theorem countP_isLineBreak_appendCall (language : Language) {name : Text}
    (visible : ∀ c ∈ name, isBlank c = false) (line : Text) :
    (appendCall language.dialect name (escape line ++ " ")).countP isLineBreak =
      line.countP isLineBreak := by
  have fixed : language.dialect.appendMethod.countP isLineBreak = 0 ∧
      language.dialect.statementEnd.countP isLineBreak = 0 := by
    cases language <;> decide
  have dot : ("." : Text).countP isLineBreak = 0 := by decide
  have opened : ("(\"" : Text).countP isLineBreak = 0 := by decide
  have space : (" " : Text).countP isLineBreak = 0 := by decide
  have closed : ("\")" : Text).countP isLineBreak = 0 := by decide
  simp only [appendCall, List.countP_append, fixed.1, fixed.2, dot, opened, space, closed,
    countP_isLineBreak_of_visible visible, countP_isLineBreak_escape, Nat.zero_add, Nat.add_zero]

theorem countP_isLineBreak_codeLines {request : CodeRequest}
    (named : isVariableName request.variableName = true) :
    request.codeLines.flatten.countP isLineBreak =
      (sqlLines request.sql).flatten.countP isLineBreak := by
  have visible : ∀ c ∈ request.variableName, isBlank c = false := fun c member =>
    isBlank_of_isWord (isWord_of_isVariableName named c member)
  have comment : (if request.addComments then [commentLine request.language.dialect]
      else []).flatten.countP isLineBreak = 0 := by
    split
    · cases request.language <;> decide
    · rfl
  have gap : (if request.formatCode then [([] : Text)] else []).flatten.countP isLineBreak = 0 := by
    split <;> rfl
  have calls : ((sqlLines request.sql).map fun line =>
        appendCall request.language.dialect request.variableName (escape line ++ " ")).flatten.countP
          isLineBreak = (sqlLines request.sql).flatten.countP isLineBreak := by
    rw [List.countP_flatten, List.countP_flatten, List.map_map]
    congr 1
    apply List.map_congr_left
    intro line _
    exact countP_isLineBreak_appendCall request.language visible line
  simp only [codeLines_eq, List.flatten_append, List.countP_append, List.flatten_singleton,
    comment, gap, calls, countP_isLineBreak_declarationLine request.language visible,
    countP_isLineBreak_finalLine request.language visible, Nat.zero_add, Nat.add_zero]

end CodeRequest

/-- The code of an accepted request has the lines that are written for it and nothing
behind them.  The count of them exceeds their number by the boundaries, other than line
feeds, inside of the lines of the statement; it is their number exactly if there are none. -/
theorem lineCount_written {settings : Settings} {request : CodeRequest}
    (accepted : (request.check settings).isValid = true) :
    let written := (request.generate settings).value
    let kept := ((lines request.sql).filter fun line => !isBlankText line).map trim
    written.success = true ∧
      (lines written.code = request.codeLines ++ [[]] ∧
        request.codeLines.length = request.emittedLines) ∧
      written.lineCount = request.emittedLines + kept.flatten.countP isLineBreak ∧
      (written.lineCount = request.emittedLines ↔
        ∀ line ∈ kept, ∀ c ∈ line, isLineBreak c = false) := by
  obtain ⟨named, -, -⟩ := CodeRequest.check_isValid_iff.mp accepted
  intro written kept
  have keptEq : kept = CodeRequest.sqlLines request.sql :=
    (CodeRequest.sqlLines_eq request.sql).symm
  have writtenEq : written = _ := CodeRequest.value_generate accepted
  have nonempty : request.codeLines ≠ [] := by
    simp [CodeRequest.codeLines_eq]
  have counted : written.lineCount =
      request.emittedLines + kept.flatten.countP isLineBreak := by
    rw [writtenEq, keptEq, ← request.length_codeLines,
      ← CodeRequest.countP_isLineBreak_codeLines named]
    exact lineCount_unlines nonempty (CodeRequest.lineFeed_not_mem_codeLines named)
      request.getLast?_codeLines
  have unbroken : kept.flatten.countP isLineBreak = 0 ↔
      ∀ line ∈ kept, ∀ c ∈ line, isLineBreak c = false := by
    rw [List.countP_eq_zero]
    simp only [List.mem_flatten, Bool.not_eq_true]
    constructor
    · exact fun free line lineMember c member => free c ⟨line, lineMember, member⟩
    · rintro free c ⟨line, lineMember, member⟩
      exact free line lineMember c member
  refine ⟨by rw [writtenEq], ⟨?_, request.length_codeLines⟩, counted, ?_⟩
  · rw [writtenEq]
    exact CodeRequest.lines_render named
  · rw [← unbroken, counted]
    omega

/-- A statement over several lines, with boundaries around its lines and in them. -/
def brokenRequest : CodeRequest :=
  { language := .csharp, sql := "SELECT 'a\x0bb',\r\n\u0085 c\x1cd\u2028\n\r\n\tFROM \\t", formatCode := false }

/-- Three lines are written for the three lines of the statement, and two are counted on
top of them. -/
theorem lineCount_written_broken :
    (brokenRequest.check {}).isValid = true ∧ brokenRequest.emittedLines = 6 ∧
      (brokenRequest.generate {}).value.lineCount = 8 := by
  have accepted : (brokenRequest.check {}).isValid = true := by decide
  have emitted : brokenRequest.emittedLines = 6 := by decide
  refine ⟨accepted, emitted, ?_⟩
  rw [(lineCount_written accepted).2.2.1, emitted]
  decide

/-- A statement on one line, with a literal that holds a mark. -/
def literalRequest (mark : Char) : CodeRequest :=
  { sql := "SELECT 'a" ++ (mark :: "b' FROM t") }

/-- A boundary inside of a literal of the statement counts as a line more than is written,
whichever it is. -/
theorem lineCount_exceeds_lines :
    ((literalRequest '\u2028').check {}).isValid = true ∧
    (literalRequest '\u2028').emittedLines = 6 ∧
    ((literalRequest '\u2028').generate {}).value.lineCount = 7 ∧
    (['\r', '\x0b', '\x0c', '\x1c', '\x1d', '\x1e', '\u0085', '\u2029'].map fun mark =>
      ((literalRequest mark).emittedLines, ((literalRequest mark).generate {}).value.lineCount)) =
        List.replicate 8 (6, 7) := by
  decide

end SqlFanout.Builder
