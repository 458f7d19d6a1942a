import SqlFanout.Proofs.SelectTokens
import SqlFanout.Shard.Totals

/-!
# Statements without their terminator

Blanks and semicolons at the ends of a statement are marks.  A renaming keeps them
where they are, so that it does not matter whether the terminator is taken off
before or behind it (`stripTerminator_rename`), and the select clause is the same
with and without them (`locate?_stripTerminator`).
-/

namespace SqlFanout.Sql

open Text

private theorem mem_of_getLast?_append {c : Char} {left right : Text} (nonempty : right ≠ [])
    (final : c ∈ (left ++ right).getLast?) : c ∈ right := by
  rw [List.getLast?_append, List.getLast?_eq_some_getLast nonempty] at final
  cases final
  exact List.getLast_mem nonempty

/-- What is taken off a statement: blanks before it, and behind it semicolons with
blanks around them. -/
structure Margins where
  lead : Text
  inner : Text
  semicolons : Text
  trailing : Text
  leadBlank : ∀ c ∈ lead, isBlank c = true
  innerBlank : ∀ c ∈ inner, isBlank c = true
  semicolon : ∀ c ∈ semicolons, (c == ';') = true
  trailingBlank : ∀ c ∈ trailing, isBlank c = true
  innerNil : semicolons = [] → inner = []

namespace Margins

def behind (margins : Margins) : Text :=
  margins.inner ++ (margins.semicolons ++ margins.trailing)

def around (margins : Margins) (core : Text) : Text :=
  margins.lead ++ (core ++ margins.behind)

theorem lead_noWord (margins : Margins) : ∀ c ∈ margins.lead, isWord c = false :=
  fun c member => isWord_of_isBlank (margins.leadBlank c member)

theorem semicolons_noWord (margins : Margins) :
    ∀ c ∈ margins.inner ++ margins.semicolons, isWord c = false := by
  intro c member
  rcases List.mem_append.mp member with inner | semicolon
  · exact isWord_of_isBlank (margins.innerBlank c inner)
  · rw [beq_iff_eq.mp (margins.semicolon c semicolon)]
    decide

theorem behind_noWord (margins : Margins) : ∀ c ∈ margins.behind, isWord c = false := by
  intro c member
  rw [behind, ← List.append_assoc, List.mem_append] at member
  rcases member with before | trailing
  · exact margins.semicolons_noWord c before
  · exact isWord_of_isBlank (margins.trailingBlank c trailing)

theorem behind_head? (margins : Margins) : margins.behind.head? ≠ some '.' := by
  intro dotted
  have member : '.' ∈ margins.behind := List.mem_of_mem_head? dotted
  rw [behind, List.mem_append, List.mem_append] at member
  rcases member with inner | semicolon | trailing
  · exact absurd (margins.innerBlank _ inner) (by decide)
  · exact absurd (margins.semicolon _ semicolon) (by decide)
  · exact absurd (margins.trailingBlank _ trailing) (by decide)

/-- The margins of a statement are what its terminator is taken off with. -/
theorem stripTerminator_around (margins : Margins) {core : Text} (tight : Tight core)
    (last : ∀ c ∈ (core ++ margins.inner).getLast?, (c == ';') = false) :
    stripTerminator (margins.around core) = core := by
  have left : trimLeft (margins.around core) = core ++ margins.behind := by
    have stop : trimLeft (core ++ margins.behind) = core ++ margins.behind := by
      apply trimLeft_eq_self
      intro c first
      apply tight.first c
      rwa [List.head?_append_of_ne_nil _ tight.nonempty] at first
    rw [trimLeft, around, List.dropWhile_append_of_pos margins.leadBlank]
    exact stop
  have trimmed : trim (margins.around core) =
      core ++ (margins.inner ++ margins.semicolons) := by
    rw [trim, left, behind, ← List.append_assoc margins.inner, ← List.append_assoc core,
      trimRight, dropTrailing_append_of_all _ margins.trailingBlank]
    apply dropTrailing_eq_self
    intro c final
    cases semicolons : margins.semicolons with
    | nil =>
        rw [semicolons, margins.innerNil semicolons, List.append_nil, List.append_nil] at final
        exact tight.last c final
    | cons d others =>
        rw [← List.append_assoc] at final
        have member := mem_of_getLast?_append (by simp [semicolons]) final
        rw [beq_iff_eq.mp (margins.semicolon c member)]
        decide
  rw [stripTerminator, trimmed, ← List.append_assoc,
    dropTrailing_append_of_all _ margins.semicolon, dropTrailing_eq_self last, trimRight,
    dropTrailing_append_of_all _ margins.innerBlank]
  exact dropTrailing_eq_self tight.last

end Margins

theorem exists_margins (sql : Text) :
    ∃ margins : Margins, sql = margins.around (stripTerminator sql) ∧
      trim sql = stripTerminator sql ++ (margins.inner ++ margins.semicolons) ∧
      ∀ c ∈ (stripTerminator sql ++ margins.inner).getLast?, (c == ';') = false := by
  obtain ⟨trailing, trimmed, trailingBlank, trimmedLast⟩ :=
    exists_dropTrailing_append isBlank (trimLeft sql)
  obtain ⟨semicolons, stripped, semicolon, strippedLast⟩ :=
    exists_dropTrailing_append (· == ';') (trim sql)
  obtain ⟨inner, core, innerBlank, -⟩ :=
    exists_dropTrailing_append isBlank (dropTrailing (· == ';') (trim sql))
  change _ = stripTerminator sql ++ inner at core
  change _ = trim sql ++ trailing at trimmed
  have innerNil : semicolons = [] → inner = [] := by
    rintro rfl
    by_contra nonempty
    rw [core, List.append_nil] at stripped
    have last := trimmedLast (inner.getLast nonempty) (by
      change _ ∈ (trim sql).getLast?
      rw [stripped, List.getLast?_append, List.getLast?_eq_some_getLast nonempty]
      rfl)
    rw [innerBlank _ (List.getLast_mem nonempty)] at last
    cases last
  refine ⟨⟨sql.takeWhile isBlank, inner, semicolons, trailing,
    fun c member => List.mem_takeWhile_imp member, innerBlank, semicolon, trailingBlank,
    innerNil⟩, ?_, ?_, ?_⟩
  · simp only [Margins.around, Margins.behind]
    rw [← List.append_assoc (stripTerminator sql), ← core, ← List.append_assoc _ semicolons,
      ← stripped, ← trimmed, trimLeft, List.takeWhile_append_dropWhile]
  · rw [← List.append_assoc, ← core]
    exact stripped
  · rw [← core]
    exact strippedLast

section Renaming

variable {change : Text → Text}

theorem rename_elsewhere_marks (marks : Text) (list : List Token) :
    rename change .elsewhere (marks.map .mark ++ list) =
      marks.map .mark ++ rename change .elsewhere list := by
  induction marks with
  | nil => rfl
  | cons c marks induction =>
      rw [List.map_cons, List.cons_append, List.cons_append, ← induction]
      rfl

theorem rename_marks (place : Place) (marks : Text) :
    rename change place (marks.map .mark) = marks.map .mark := by
  induction marks generalizing place with
  | nil => rfl
  | cons c marks induction =>
      rw [List.map_cons, rename_of_no_target _ (target?_mark place c _), induction]

/-- Whether a token is in the place of a reference depends on the next mark only as
far as it is a dot. -/
theorem target?_congr (place : Place) (token : Token) {next other : Option Char}
    (same : next = some '.' ↔ other = some '.') :
    target? place token next = target? place token other := by
  unfold target?
  split <;> simp_all

theorem rename_append_marks (place : Place) (list : List Token) {marks : Text}
    (undotted : marks.head? ≠ some '.') :
    rename change place (list ++ marks.map .mark) =
      rename change place list ++ marks.map .mark := by
  induction list generalizing place with
  | nil => exact rename_marks place marks
  | cons token others induction =>
      cases others with
      | nil =>
          have next : leadingMark (marks.map .mark) = some '.' ↔
              leadingMark [] = some '.' := by
            cases marks <;> simp_all [leadingMark]
          rw [List.singleton_append, rename_cons, rename_cons, rename_marks, renamed,
            renamed, target?_congr place token next]
          rfl
      | cons token' others =>
          have next : leadingMark (token' :: others ++ marks.map .mark) =
              leadingMark (token' :: others) := by
            cases token' <;> rfl
          rw [List.cons_append, rename_cons, next, induction, rename_cons]
          rfl

theorem rename_around (margins : Margins) (core : Text) :
    spell (rename change .elsewhere (tokens (margins.around core))) =
      margins.around (spell (rename change .elsewhere (tokens core))) := by
  rw [Margins.around, tokens_marks_append margins.lead_noWord,
    tokens_append_marks core margins.behind_noWord, rename_elsewhere_marks,
    rename_append_marks .elsewhere _ margins.behind_head?, spell_append, spell_append,
    spell_map_mark, spell_map_mark]
  rfl

section Ends

variable {test : Char → Bool} {list : List Token}

theorem head?_all_rename (tame : Tame change)
    (words : ∀ c, isWord c = true → test c = true) (proper : Proper list) (place : Place) :
    (spell (rename change place list)).head?.all test = (spell list).head?.all test := by
  have opened : ∀ {letters : Text} (rest : Text),
      (letters ≠ [] ∧ ∀ c ∈ letters, isWord c = true) →
        (letters ++ rest).head?.all test = true := by
    rintro letters rest ⟨nonempty, isWord⟩
    obtain ⟨c, others, rfl⟩ := List.exists_cons_of_ne_nil nonempty
    exact words c (isWord c List.mem_cons_self)
  cases list with
  | nil => rfl
  | cons token others =>
      rw [rename_cons, spell_cons, spell_cons]
      rcases tame.renamed_cases proper place (leadingMark others) with
        ⟨c, rfl, same⟩ | ⟨letters, changed, rfl, word, letterWord, changedWord⟩
      · rw [same]
        rfl
      · rw [word, Token.spelling, Token.spelling, opened _ letterWord, opened _ changedWord]

theorem lastOr_all_rename (tame : Tame change)
    (words : ∀ c, isWord c = true → test c = true) (proper : Proper list) (place : Place)
    {before other : Option Char} (same : before.all test = other.all test) :
    (lastOr before (spell (rename change place list))).all test =
      (lastOr other (spell list)).all test := by
  have closed : ∀ {letters : Text} (before : Option Char),
      (letters ≠ [] ∧ ∀ c ∈ letters, isWord c = true) →
        (lastOr before letters).all test = true := by
    rintro letters before ⟨nonempty, isWord⟩
    rw [lastOr, List.getLast?_eq_some_getLast nonempty]
    exact words _ (isWord _ (List.getLast_mem nonempty))
  induction list generalizing place before other with
  | nil => exact same
  | cons token others induction =>
      rw [rename_cons, spell_cons, spell_cons, lastOr_append, lastOr_append]
      apply induction proper.tail
      rcases tame.renamed_cases proper place (leadingMark others) with
        ⟨c, rfl, kept⟩ | ⟨letters, changed, rfl, word, letterWord, changedWord⟩
      · rw [kept]
        rfl
      · rw [word, Token.spelling, Token.spelling, closed _ letterWord, closed _ changedWord]

theorem getLast?_append_all_rename (tame : Tame change)
    (words : ∀ c, isWord c = true → test c = true) (proper : Proper list) (place : Place)
    (tail : Text) :
    (spell (rename change place list) ++ tail).getLast?.all test =
      (spell list ++ tail).getLast?.all test := by
  rw [← lastOr_none, ← lastOr_none, lastOr_append, lastOr_append]
  cases tail with
  | nil => exact lastOr_all_rename tame words proper place rfl
  | cons c tail => rw [lastOr_cons, lastOr_cons]

end Ends

theorem tight_rename (tame : Tame change) {text : Text} (tight : Tight text)
    (nonempty : spell (rename change .elsewhere (tokens text)) ≠ []) :
    Tight (spell (rename change .elsewhere (tokens text))) := by
  have words : ∀ c, isWord c = true → (!isBlank c) = true := by
    intro c letter
    rw [isBlank_of_isWord letter]
    rfl
  have first := head?_all_rename tame words (proper_tokens text) .elsewhere
  have last := getLast?_append_all_rename tame words (proper_tokens text) .elsewhere []
  rw [spell_tokens] at first last
  rw [List.append_nil, List.append_nil] at last
  rw [tight_iff] at tight ⊢
  rw [first, last]
  exact ⟨nonempty, tight.2⟩

end Renaming

theorem tight_stripTerminator {sql : Text} (nonempty : stripTerminator sql ≠ []) :
    Tight (stripTerminator sql) := by
  obtain ⟨margins, -, trimmed, -⟩ := exists_margins sql
  obtain ⟨-, -, -, last⟩ :=
    exists_dropTrailing_append isBlank (dropTrailing (· == ';') (trim sql))
  have whole : Tight (trim sql) := tight_trim_of_ne_nil (by simp [trimmed, nonempty])
  refine ⟨nonempty, ?_, last⟩
  intro c first
  apply whole.first c
  rwa [trimmed, List.head?_append_of_ne_nil _ nonempty]

/-- The terminator may be taken off before a renaming or behind it. -/
theorem stripTerminator_rename {change : Text → Text} (tame : Tame change) {sql : Text}
    (nonempty : spell (rename change .elsewhere (tokens (stripTerminator sql))) ≠ []) :
    stripTerminator (spell (rename change .elsewhere (tokens sql))) =
      spell (rename change .elsewhere (tokens (stripTerminator sql))) := by
  obtain ⟨margins, split, -, last⟩ := exists_margins sql
  have stripped : stripTerminator sql ≠ [] := by
    intro empty
    rw [empty] at nonempty
    exact nonempty rfl
  conv_lhs => rw [split, rename_around]
  apply margins.stripTerminator_around
    (tight_rename tame (tight_stripTerminator stripped) nonempty)
  have words : ∀ c, isWord c = true → (c != ';') = true := by
    intro c letter
    rw [bne_iff_ne]
    rintro rfl
    revert letter
    decide
  have same := getLast?_append_all_rename tame words (proper_tokens (stripTerminator sql))
    .elsewhere margins.inner
  have ending : (stripTerminator sql ++ margins.inner).getLast?.all (· != ';') = true := by
    simpa [Option.all_eq_true] using last
  rw [spell_tokens, ending] at same
  simpa [Option.all_eq_true] using same

theorem locate?_stripTerminator (sql : Text) :
    ∃ marks, SelectClause.locate? (trim sql) =
      (SelectClause.locate? (stripTerminator sql)).map fun clause =>
        { clause with tail := clause.tail ++ marks } := by
  obtain ⟨margins, -, trimmed, -⟩ := exists_margins sql
  refine ⟨margins.inner ++ margins.semicolons, ?_⟩
  rw [trimmed]
  exact locate?_append_marks _ margins.semicolons_noWord

end SqlFanout.Sql
