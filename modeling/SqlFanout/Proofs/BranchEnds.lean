import SqlFanout.Proofs.QuotedLiterals
import SqlFanout.Proofs.UnionBranches

/-!
# The ends of branches

Taking off the terminator of a statement takes off one run of semicolons.  If blanks
part the semicolons at its end, some of them stay
(`endsInTerminator_stripTerminator_iff`), and the branches of a union end in them,
for neither a renaming nor a new list of fields changes what is visible at the end of
a statement, the suffix of a table apart (`lastVisible_branch`).
-/

namespace SqlFanout

open Text

/-- A text whose last character is a semicolon. -/
def EndsInTerminator (text : Text) : Prop :=
  text.getLast? = some ';'

instance (text : Text) : Decidable (EndsInTerminator text) :=
  inferInstanceAs (Decidable (text.getLast? = some ';'))

/-- The last character that is not blank. -/
def lastVisible (text : Text) : Option Char :=
  (Sql.dropBlanks text).getLast?

theorem lastVisible_append {right : Text} (visible : Sql.dropBlanks right ≠ []) (left : Text) :
    lastVisible (left ++ right) = lastVisible right := by
  rw [lastVisible, Sql.dropBlanks_append, List.getLast?_append_of_ne_nil _ visible]
  rfl

theorem lastVisible_of_last {text : Text} (last : ∀ c ∈ text.getLast?, isBlank c = false) :
    lastVisible text = text.getLast? := by
  cases ending : text.getLast? with
  | none =>
      rw [List.getLast?_eq_none_iff.mp ending]
      rfl
  | some c =>
      obtain ⟨front, rfl⟩ := List.getLast?_eq_some_iff.mp ending
      have visible : Sql.dropBlanks [c] = [c] := by
        simp [Sql.dropBlanks, last c ending]
      rw [lastVisible_append (by simp [visible]), lastVisible, visible]
      rfl

theorem lastVisible_trim (text : Text) : lastVisible (trim text) = lastVisible text := by
  rw [lastVisible, Sql.dropBlanks_trim]
  rfl

theorem EndsInTerminator.lastVisible {text : Text} (ends : EndsInTerminator text) :
    lastVisible text = some ';' := by
  rw [lastVisible_of_last, ends]
  intro c last
  rw [ends] at last
  cases last
  decide

theorem endsInTerminator_iff_lastVisible {text : Text}
    (last : ∀ c ∈ text.getLast?, isBlank c = false) :
    EndsInTerminator text ↔ lastVisible text = some ';' := by
  rw [lastVisible_of_last last]
  rfl

/-- At the end of a statement, blanks stand between two semicolons. -/
def PartedTerminator (sql : Text) : Prop :=
  ∃ front gap back, sql = front ++ ';' :: (gap ++ ';' :: back) ∧ gap ≠ [] ∧
    (∀ c ∈ gap, isBlank c = true) ∧ ∀ c ∈ back, isBlank c = true ∨ c = ';'

theorem not_blank_getLast?_stripTerminator (sql : Text) :
    ∀ c ∈ (stripTerminator sql).getLast?, isBlank c = false := by
  obtain ⟨-, -, -, last⟩ :=
    exists_dropTrailing_append isBlank (dropTrailing (· == ';') (trim sql))
  exact last

namespace Sql.Margins

theorem not_parted (margins : Margins) {lead : Text} (leadBlank : ∀ c ∈ lead, isBlank c = true)
    {blank : Char} (isBlank : isBlank blank = true) :
    ¬ [';', blank, ';'].Sublist (lead ++ margins.behind) := by
  intro parted
  have noBlank : ∀ {stretch : Text}, (∀ c ∈ stretch, Text.isBlank c = true) → ';' ∉ stretch := by
    intro stretch blanks member
    exact absurd (blanks ';' member) (by decide)
  rw [behind, ← List.append_assoc, ← List.append_assoc] at parted
  obtain ⟨front, last, split, inFront, inTrailing⟩ := List.sublist_append_iff.mp parted
  obtain ⟨first, middle, rfl, inBlanks, inSemicolons⟩ := List.sublist_append_iff.mp inFront
  have firstNil : first = [] := by
    cases first with
    | nil => rfl
    | cons c others =>
        obtain rfl : ';' = c := by simpa using congrArg List.head? split
        have member := inBlanks.subset List.mem_cons_self
        rcases List.mem_append.mp member with lead | inner
        · exact absurd lead (noBlank leadBlank)
        · exact absurd inner (noBlank margins.innerBlank)
  have lastNil : last = [] := by
    by_contra nonempty
    have final := congrArg List.getLast? split
    rw [List.getLast?_append_of_ne_nil _ nonempty] at final
    have member : ';' ∈ last := List.mem_of_getLast? final.symm
    exact noBlank margins.trailingBlank (inTrailing.subset member)
  rw [firstNil, lastNil, List.nil_append, List.append_nil] at split
  have member : blank ∈ margins.semicolons := inSemicolons.subset (by simp [← split])
  rw [beq_iff_eq.mp (margins.semicolon blank member)] at isBlank
  exact absurd isBlank (by decide)

theorem isBlank_of_marks (margins : Margins) {core front stretch : Text}
    (bare : ∀ c ∈ core.getLast?, ¬(isBlank c = true ∨ c = ';'))
    (split : margins.lead ++ core = front ++ stretch)
    (marks : ∀ c ∈ stretch, isBlank c = true ∨ c = ';') : ∀ c ∈ stretch, isBlank c = true := by
  by_cases empty : core = []
  · intro c member
    rw [empty, List.append_nil] at split
    apply margins.leadBlank c
    rw [split]
    exact List.mem_append_right front member
  · by_cases nonempty : stretch = []
    · simp [nonempty]
    · have last := congrArg List.getLast? split
      rw [List.getLast?_append_of_ne_nil _ empty, List.getLast?_append_of_ne_nil _ nonempty,
        List.getLast?_eq_some_getLast nonempty] at last
      exact absurd (marks _ (List.getLast_mem nonempty)) (bare _ last)

end Sql.Margins

/-- A semicolon is left at the end of a statement exactly if blanks part the
semicolons there. -/
theorem endsInTerminator_stripTerminator_iff {sql : Text} :
    EndsInTerminator (stripTerminator sql) ↔ PartedTerminator sql := by
  obtain ⟨margins, around, -, last⟩ := Sql.exists_margins sql
  constructor
  · intro ends
    have innerSome : margins.inner ≠ [] := by
      intro empty
      rw [empty, List.append_nil] at last
      exact absurd (last ';' ends) (by decide)
    obtain ⟨c, more, semicolons⟩ :=
      List.exists_cons_of_ne_nil fun empty => innerSome (margins.innerNil empty)
    have first : c = ';' := beq_iff_eq.mp (margins.semicolon c (by simp [semicolons]))
    obtain ⟨front, core⟩ := List.getLast?_eq_some_iff.mp ends
    refine ⟨margins.lead ++ front, margins.inner, more ++ margins.trailing, ?_, innerSome,
      margins.innerBlank, ?_⟩
    · rw [core, Sql.Margins.around, Sql.Margins.behind, semicolons, first] at around
      simpa using around
    · intro d member
      rcases List.mem_append.mp member with semicolon | trailing
      · exact .inr (beq_iff_eq.mp (margins.semicolon d (by simp [semicolons, semicolon])))
      · exact .inl (margins.trailingBlank d trailing)
  · rintro ⟨front, gap, back, split, gapSome, gapBlank, marks⟩
    by_contra bare
    obtain ⟨blank, gap, rfl⟩ := List.exists_cons_of_ne_nil gapSome
    have blankIsBlank := gapBlank blank List.mem_cons_self
    have parted : [';', blank, ';'].Sublist (';' :: (blank :: gap ++ ';' :: back)) := by
      simp
    have tailMarks : ∀ c ∈ ';' :: (blank :: gap ++ ';' :: back), isBlank c = true ∨ c = ';' := by
      intro c member
      rcases List.mem_cons.mp member with first | later
      · exact .inr first
      · rcases List.mem_append.mp later with inGap | behindGap
        · exact .inl (gapBlank c inGap)
        · rcases List.mem_cons.mp behindGap with second | inBack
          · exact .inr second
          · exact marks c inBack
    rw [around, Sql.Margins.around, ← List.append_assoc] at split
    rcases List.append_eq_append_iff.mp split with ⟨more, -, behind⟩ | ⟨more, core, behind⟩
    · have noLead : ∀ c ∈ ([] : Text), isBlank c = true := by simp
      apply margins.not_parted noLead blankIsBlank
      rw [List.nil_append, behind]
      exact parted.trans (List.sublist_append_right _ _)
    · have bareLast : ∀ c ∈ (stripTerminator sql).getLast?, ¬(isBlank c = true ∨ c = ';') := by
        rintro c final (isBlank | rfl)
        · rw [not_blank_getLast?_stripTerminator sql c final] at isBlank
          cases isBlank
        · exact bare final
      rw [behind] at parted tailMarks
      have moreBlank := margins.isBlank_of_marks bareLast core fun c member =>
        tailMarks c (List.mem_append_left _ member)
      exact margins.not_parted moreBlank blankIsBlank parted

instance (sql : Text) : Decidable (PartedTerminator sql) :=
  decidable_of_iff _ endsInTerminator_stripTerminator_iff

theorem stripTerminator_stripTerminator_iff {sql : Text} :
    stripTerminator (stripTerminator sql) = stripTerminator sql ↔
      ¬ EndsInTerminator (stripTerminator sql) := by
  constructor
  · intro same ends
    obtain ⟨margins, around, -, last⟩ := Sql.exists_margins (stripTerminator sql)
    have size := congrArg List.length around
    simp only [same, Sql.Margins.around, Sql.Margins.behind, List.length_append] at size
    have innerNil : margins.inner = [] := List.eq_nil_of_length_eq_zero (by omega)
    rw [same, innerNil, List.append_nil] at last
    exact absurd (last ';' ends) (by decide)
  · intro bare
    by_cases empty : stripTerminator sql = []
    · rw [empty]
      rfl
    · let margins : Sql.Margins :=
        ⟨[], [], [], [], by simp, by simp, by simp, by simp, fun _ => rfl⟩
      have last : ∀ c ∈ (stripTerminator sql ++ margins.inner).getLast?, (c == ';') = false := by
        rw [List.append_nil]
        rintro c final
        rw [beq_eq_false_iff_ne]
        rintro rfl
        exact bare final
      have fixed := margins.stripTerminator_around (Sql.tight_stripTerminator empty) last
      simpa [margins, Sql.Margins.around, Sql.Margins.behind] using fixed

namespace Sql

section Rename

variable {new text : Text} {form : Text → Text → Prop} {pieces : List (Piece Text)}

/-- The last visible character of a renamed text is that of the text or that of the
new name. -/
theorem lastOr_dropBlanks_renamed (cuts : Finder.Cuts form text pieces)
    (visible : dropBlanks new ≠ []) {before other : Option Char}
    (same : before = other ∨ before = lastVisible new) :
    lastOr before (dropBlanks (pieces.flatMap (renamedPiece new))) =
        lastOr other (dropBlanks text) ∨
      lastOr before (dropBlanks (pieces.flatMap (renamedPiece new))) = lastVisible new := by
  induction cuts generalizing before other with
  | nil => exact same
  | @plain c rest pieces later induction =>
      have split : c :: rest = [c] ++ rest := rfl
      rw [split, List.flatMap_cons, dropBlanks_append, dropBlanks_append, lastOr_append,
        lastOr_append]
      apply induction
      rcases same with equal | renamed
      · left
        rw [equal]
        rfl
      · cases blank : isBlank c with
        | true =>
            right
            simpa [renamedPiece, dropBlanks, blank] using renamed
        | false =>
            left
            simp [renamedPiece, dropBlanks, blank, lastOr]
  | @found value part rest pieces formed later induction =>
      rw [List.flatMap_cons, dropBlanks_append, dropBlanks_append, lastOr_append, lastOr_append]
      apply induction
      right
      rw [renamedPiece, dropBlanks_append, lastOr_append, lastOr,
        List.getLast?_eq_some_getLast visible, lastVisible, List.getLast?_eq_some_getLast visible]

theorem lastVisible_renameTable {old : Text} (visible : dropBlanks new ≠ []) (sql : Text) :
    lastVisible (renameTable old new sql) = lastVisible sql ∨
      lastVisible (renameTable old new sql) = lastVisible new := by
  have cuts : Finder.Cuts (RefersTo old) sql ((referenceFinder old).scan sql) :=
    Finder.cuts_scanFrom refersTo_of_referenceFinder none sql
  have renamed := lastOr_dropBlanks_renamed cuts visible (.inl (Eq.refl none))
  rw [lastOr_none, lastOr_none] at renamed
  rw [renameTable_eq_flatMap]
  exact renamed

theorem lastVisible_renameTables {tables : List Text} {suffix : Text}
    (visible : dropBlanks suffix ≠ []) (sql : Text) :
    lastVisible (renameTables tables suffix sql) = lastVisible sql ∨
      lastVisible (renameTables tables suffix sql) = lastVisible suffix := by
  rw [renameTables]
  induction tables generalizing sql with
  | nil => exact .inl rfl
  | cons table tables induction =>
      rw [List.foldl_cons]
      rcases induction (renameTable table (table ++ suffix) sql) with kept | suffixed
      · have nameVisible : dropBlanks (table ++ suffix) ≠ [] := by
          simp [dropBlanks_append, visible]
        rcases lastVisible_renameTable nameVisible sql with same | renamed
        · exact .inl (kept.trans same)
        · right
          rw [kept, renamed, lastVisible_append visible]
      · exact .inr suffixed

end Rename

theorem lastVisible_replaceFields (fields : List SelectField) (sql : Text) :
    lastVisible (replaceFields fields sql) = lastVisible sql := by
  cases located : SelectClause.locate? (trim sql) with
  | none => rw [replaceFields, located]
  | some clause =>
      obtain ⟨-, found⟩ := SelectClause.locate?_eq_some_iff.mp located
      obtain ⟨-, -, starts, -⟩ := cutBeforeFrom?_eq_some_iff.mp found
      have tailSome := ne_nil_of_startsFrom starts
      have last : ∀ middle : Text,
          (clause.head ++ (middle ++ clause.tail)).getLast? = clause.tail.getLast? := by
        intro middle
        rw [← List.append_assoc, List.getLast?_append_of_ne_nil _ tailSome]
      have trimmed : Tight (trim sql) := by
        rw [eq_append_of_locate? located]
        exact tight_of_locate? located clause.fields
      have replaced := tight_replaceFields located fields
      have spelled : replaceFields fields sql =
          clause.head ++ (" " ++ (join ", " (fields.map (·.render)) ++ " ") ++ clause.tail) := by
        rw [replaceFields_of_locate? located]
        simp only [List.append_assoc]
      calc
        lastVisible (replaceFields fields sql) = (replaceFields fields sql).getLast? :=
          lastVisible_of_last replaced.last
        _ = clause.tail.getLast? := by rw [spelled, last]
        _ = (trim sql).getLast? := by rw [eq_append_of_locate? located, last]
        _ = lastVisible (trim sql) := (lastVisible_of_last trimmed.last).symm
        _ = lastVisible sql := lastVisible_trim sql

end Sql

theorem dropBlanks_ne_nil_of_showsDigit {text : Text} (shows : ShowsDigit text) :
    Sql.dropBlanks text ≠ [] := by
  obtain ⟨d, member, digit⟩ := shows
  have visible := isBlank_of_isWord (isWord_of_isAsciiDigit digit)
  exact List.ne_nil_of_mem (List.mem_filter.mpr ⟨member, by simp [visible]⟩)

theorem lastVisible_append_ofInt (front : Text) (n : Int) :
    lastVisible (front ++ ofInt n) ≠ some ';' := by
  intro ends
  rw [lastVisible_append (dropBlanks_ne_nil_of_showsDigit (showsDigit_ofInt n))] at ends
  have member : ';' ∈ ofInt n := List.mem_of_mem_filter (List.mem_of_getLast? ends)
  rcases mem_ofInt member with digit | sign
  · exact absurd digit (by decide)
  · exact absurd sign (by decide)

/-- Only a custom format can put a semicolon at the end of a suffix. -/
theorem lastVisible_suffix {series : SuffixSeries} (counted : series.style ≠ .custom)
    (index : Int) : lastVisible (series.suffix index) ≠ some ';' := by
  cases style : series.style with
  | sequence =>
      simp only [SuffixSeries.suffix, style]
      exact lastVisible_append_ofInt _ _
  | year =>
      simp only [SuffixSeries.suffix, style]
      exact lastVisible_append_ofInt _ _
  | yearMonth =>
      have padded : ∀ month : Nat, ∃ lead, twoDigits month = lead ++ ofInt month := by
        intro month
        rw [twoDigits]
        split
        · exact ⟨['0'], rfl⟩
        · exact ⟨[], rfl⟩
      obtain ⟨lead, month⟩ := padded ((series.startYear * 12 + (series.startMonth - 1) + index)
        % 12 + 1).toNat
      simp only [SuffixSeries.suffix, style, month, ← List.append_assoc]
      exact lastVisible_append_ofInt _ _
  | custom => exact absurd style counted

namespace ShardPlan

theorem lastVisible_branch {plan : ShardPlan} {suffix : Text} (shows : ShowsDigit suffix)
    (fields : List Sql.SelectField) :
    lastVisible (plan.branch fields suffix) = (stripTerminator plan.sql).getLast? ∨
      lastVisible (plan.branch fields suffix) = lastVisible suffix := by
  have visible := dropBlanks_ne_nil_of_showsDigit shows
  rw [branch, Sql.lastVisible_replaceFields,
    ← lastVisible_of_last (not_blank_getLast?_stripTerminator plan.sql)]
  exact Sql.lastVisible_renameTables visible (stripTerminator plan.sql)

/-- A branch has a semicolon at its end from the query or from the suffix. -/
theorem parted_or_suffixed {plan : ShardPlan} {suffix : Text} (shows : ShowsDigit suffix)
    (fields : List Sql.SelectField) (ends : EndsInTerminator (plan.branch fields suffix)) :
    PartedTerminator plan.sql ∨ EndsInTerminator (trim suffix) := by
  have visible := ends.lastVisible
  rcases lastVisible_branch shows fields with kept | suffixed
  · left
    rw [← endsInTerminator_stripTerminator_iff, EndsInTerminator, ← kept, visible]
  · right
    have tight : Tight (trim suffix) := by
      apply tight_trim_of_ne_nil
      intro empty
      apply dropBlanks_ne_nil_of_showsDigit shows
      rw [← Sql.dropBlanks_trim, empty]
      rfl
    rw [endsInTerminator_iff_lastVisible tight.last, lastVisible_trim, ← suffixed, visible]

/-- A branch ends in a semicolon if the query without its terminator does, for names
and suffixes in word characters that are no keywords. -/
theorem endsInTerminator_branch {plan : ShardPlan} {suffix : Text}
    (separable : ∀ table ∈ plan.tables, Sql.Separable table) (shows : ShowsDigit suffix)
    (isWord : ∀ c ∈ suffix, isWord c = true) {clause : Sql.SelectClause}
    (located : Sql.SelectClause.locate? (trim plan.sql) = some clause)
    (fields : List Sql.SelectField) (ends : EndsInTerminator (stripTerminator plan.sql)) :
    EndsInTerminator (plan.branch fields suffix) := by
  have renamable := Sql.renamable_of_separable separable shows
  have tame := Sql.tame_passes renamable isWord
  have words : ∀ c, Text.isWord c = true → (c != ';') = true := by
    intro c letter
    rw [bne_iff_ne]
    rintro rfl
    revert letter
    decide
  have same := Sql.getLast?_append_all_rename tame words
    (Sql.proper_tokens (stripTerminator plan.sql)) .elsewhere []
  rw [List.append_nil, List.append_nil, Sql.spell_tokens, ends,
    ← Sql.renameTables_eq renamable isWord] at same
  have renamed : EndsInTerminator
      (Sql.renameTables plan.tables suffix (stripTerminator plan.sql)) := by
    rw [EndsInTerminator]
    cases last : (Sql.renameTables plan.tables suffix (stripTerminator plan.sql)).getLast? with
    | none => simp [last] at same
    | some c =>
        have semicolon : c = ';' := by simpa [last] using same
        rw [semicolon]
  obtain ⟨other, again, tight, -, -⟩ := Sql.locate?_renameTables separable shows isWord located
  rw [← tight.trim_eq] at again
  rw [branch, endsInTerminator_iff_lastVisible (Sql.tight_replaceFields again fields).last,
    Sql.lastVisible_replaceFields]
  exact renamed.lastVisible

/-- Taking off the terminator of a statement takes off blanks before it, and blanks and
one run of semicolons behind it.  What is left never ends in a blank, and ends in a
semicolon exactly if blanks part the semicolons at the end; only then does taking off
the terminator again change anything.  A branch of a union that ends in a semicolon
has it from such a statement or from a custom format; for names and suffixes in word
characters that are no keywords, all branches end in one exactly if the statement is
of that kind. -/
theorem terminators_taken_off (sql : Text) :
    (∃ margins : Sql.Margins, sql = margins.around (stripTerminator sql)) ∧
    (∀ c ∈ (stripTerminator sql).getLast?, isBlank c = false) ∧
    (EndsInTerminator (stripTerminator sql) ↔ PartedTerminator sql) ∧
    (stripTerminator (stripTerminator sql) = stripTerminator sql ↔ ¬ PartedTerminator sql) ∧
    ∀ settings clock assignment plan, plan.sql = sql →
      (generateTotals settings clock assignment plan).value.success = true →
      let totals := (generateTotals settings clock assignment plan).value
      totals.sql = unionOf (totals.fields.map (totalOf assignment)) (plan.branches totals.fields) ∧
        ((plan.branches totals.fields).length : Int) = plan.count ∧
        (∀ branch ∈ plan.branches totals.fields, EndsInTerminator branch →
          PartedTerminator sql ∨ plan.series.style = .custom ∧
            ∃ suffix ∈ plan.series.suffixes plan.count, EndsInTerminator (trim suffix)) ∧
        ((∀ table ∈ plan.tables, Sql.Separable table) →
          (∀ suffix ∈ plan.series.suffixes plan.count, ∀ c ∈ suffix, isWord c = true) →
          ∀ branch ∈ plan.branches totals.fields,
            EndsInTerminator branch ↔ PartedTerminator sql) := by
  obtain ⟨margins, around, -⟩ := Sql.exists_margins sql
  refine ⟨⟨margins, around⟩, not_blank_getLast?_stripTerminator sql,
    endsInTerminator_stripTerminator_iff, ?_, ?_⟩
  · rw [stripTerminator_stripTerminator_iff, endsInTerminator_stripTerminator_iff]
  · rintro settings clock assignment plan rfl successful
    obtain ⟨accepted, -, fields, read, value⟩ := value_generateTotals successful
    have shows := showsDigit_of_check accepted
    rw [value]
    refine ⟨rfl, ?_, ?_, ?_⟩
    · have positive := count_pos_of_check accepted
      rw [branches, List.length_map, SuffixSeries.length_suffixes]
      omega
    · intro branch member ends
      obtain ⟨suffix, listed, rfl⟩ := List.mem_map.mp member
      rcases parted_or_suffixed (shows suffix listed) fields ends with parted | suffixed
      · exact .inl parted
      · refine .inr ⟨?_, suffix, listed, suffixed⟩
        by_contra counted
        obtain ⟨index, -, rfl⟩ := List.mem_map.mp listed
        apply lastVisible_suffix counted index
        rw [← lastVisible_trim, suffixed.lastVisible]
    · intro separable suffixed branch member
      obtain ⟨suffix, listed, rfl⟩ := List.mem_map.mp member
      obtain ⟨clause, located, -⟩ := Sql.selectFields_eq_ok_iff.mp read
      constructor
      · intro ends
        rcases parted_or_suffixed (shows suffix listed) fields ends with parted | inSuffix
        · exact parted
        · have member : ';' ∈ suffix := mem_of_mem_trim (List.mem_of_getLast? inSuffix)
          exact absurd (suffixed suffix listed ';' member) (by decide)
      · intro parted
        exact endsInTerminator_branch separable (shows suffix listed) (suffixed suffix listed)
          located fields (endsInTerminator_stripTerminator_iff.mpr parted)

/-- Two semicolons without a blank between them, and suffixes in word characters that
show the number before their end. -/
def endedPlan : ShardPlan :=
  { tables := ["t"], count := 2, series := { style := .custom, format := "_\x7bi\x7dx" }
    sql := "\n SELECT a FROM s.t ;;\t " }

theorem terminators_taken_off_ended :
    (generateTotals {} (.stopped 0) [] endedPlan).value.success = true ∧
    (∀ table ∈ endedPlan.tables, Sql.Separable table) ∧
    (∀ suffix ∈ endedPlan.series.suffixes endedPlan.count, ∀ c ∈ suffix, isWord c = true) ∧
    ¬ PartedTerminator endedPlan.sql ∧
    stripTerminator (stripTerminator endedPlan.sql) = stripTerminator endedPlan.sql ∧
    (generateTotals {} (.stopped 0) [] endedPlan).value.fields = [⟨"a", "a", false⟩] ∧
    (generateTotals {} (.stopped 0) [] endedPlan).value.sql =
      unionOf ["SUM(unionTable.a)"] (endedPlan.branches [⟨"a", "a", false⟩]) ∧
    ((endedPlan.branches [⟨"a", "a", false⟩]).length : Int) = 2 ∧
    ∀ branch ∈ endedPlan.branches [⟨"a", "a", false⟩], ¬ EndsInTerminator branch := by
  have successful : (generateTotals {} (.stopped 0) [] endedPlan).value.success = true := by decide
  have separable : ∀ table ∈ endedPlan.tables, Sql.Separable table := by
    intro table member
    rw [List.mem_singleton.mp member]
    have letters : ∀ c ∈ ("t" : Text), Sql.isNameChar c = true :=
      List.all_eq_true.mp (by decide)
    exact ⟨.of_isNameChar (by decide) letters, by decide, by decide⟩
  have words : ∀ suffix ∈ endedPlan.series.suffixes endedPlan.count,
      suffix.all isWord = true := by
    decide
  have suffixed : ∀ suffix ∈ endedPlan.series.suffixes endedPlan.count,
      ∀ c ∈ suffix, isWord c = true :=
    fun suffix listed => List.all_eq_true.mp (words suffix listed)
  have whole : ¬ PartedTerminator endedPlan.sql := by decide
  have fields : (generateTotals {} (.stopped 0) [] endedPlan).value.fields =
      [⟨"a", "a", false⟩] := by
    decide
  obtain ⟨-, -, -, again, made⟩ := terminators_taken_off endedPlan.sql
  obtain ⟨spelled, size, -, ends⟩ := made {} (.stopped 0) [] endedPlan rfl successful
  rw [fields] at spelled size ends
  refine ⟨successful, separable, suffixed, whole, again.mpr whole, fields, spelled, size, ?_⟩
  intro branch member ending
  exact whole ((ends separable suffixed branch member).mp ending)

/-- A blank between two semicolons leaves one of them, which a second time takes off,
and the branches of the union end in it. -/
theorem stripTerminator_leaves_semicolon :
    stripTerminator "SELECT a FROM t; ;" = "SELECT a FROM t;" ∧
    EndsInTerminator (stripTerminator "SELECT a FROM t; ;") ∧
    stripTerminator (stripTerminator "SELECT a FROM t; ;") = "SELECT a FROM t" ∧
    (({ tables := ["t"], count := 1, sql := "SELECT a FROM t; ;" } :
        ShardPlan).generateTotals {} (.stopped 0) []).value.success = true ∧
    (({ tables := ["t"], count := 1, sql := "SELECT a FROM t; ;" } :
        ShardPlan).generateTotals {} (.stopped 0) []).value.sql =
      unionOf ["SUM(unionTable.a)"] ["SELECT a AS a FROM t_0;"] ∧
    EndsInTerminator "SELECT a AS a FROM t_0;" := by
  decide

end ShardPlan

end SqlFanout
