import SqlFanout.Proofs.DistinctShards
import SqlFanout.Proofs.RenamingOrder
import SqlFanout.Proofs.SelectList
import SqlFanout.Proofs.Terminators

/-!
# The branches of a union

The statement for totals unites one branch per shard.  The fields of the query
are read once, before its tables are renamed, and are put into every branch.  So
all branches have the same columns (`branches_read_back`); but a branch is the
statement of its shard with the fields spelled out only as long as the list of
fields refers to no planned table (`totals_unite_statements`).
-/

namespace SqlFanout.Sql

open Text

theorem spares_passes {keyword suffix : Text} {tables : List Text}
    (apart : ∀ table ∈ tables, folded table ≠ folded keyword ∧
      folded (table ++ suffix) ≠ folded keyword) :
    Spares keyword (passes tables suffix) := by
  induction tables with
  | nil => exact fun name => .inl rfl
  | cons table tables induction =>
      have later := induction fun other member =>
        apart other (List.mem_cons_of_mem table member)
      obtain ⟨before, behind⟩ := apart table List.mem_cons_self
      intro name
      rw [passes_cons, retarget]
      split
      next same =>
        right
        refine ⟨by rw [same]; exact before, ?_⟩
        rcases later (table ++ suffix) with kept | ⟨-, changed⟩
        · rw [kept]
          exact behind
        · exact changed
      next => exact later name

/-- A name in word characters that is no keyword at which a query is cut. -/
structure Separable (table : Text) : Prop where
  wordlike : Wordlike table
  idle : startsClause table = false
  noSelect : folded table ≠ folded "SELECT"

theorem PlainName.separable {name : Text} (plain : PlainName name) : Separable name := by
  refine ⟨plain.wordlike, plain.startsClause, ?_⟩
  intro same
  apply plain.folded_not_mem
  rw [same]
  decide

theorem folded_append_ne_of_showsDigit {keyword suffix : Text}
    (letters : (folded keyword).any isAsciiDigit = false) (shows : ShowsDigit suffix)
    (table : Text) : folded (table ++ suffix) ≠ folded keyword := by
  intro same
  obtain ⟨d, member, digit⟩ := (shows.append_left table).folded
  rw [same] at member
  exact List.any_eq_false.mp letters d member digit

section Suffix

variable {tables : List Text} {suffix : Text}

theorem spares_select (separable : ∀ table ∈ tables, Separable table)
    (shows : ShowsDigit suffix) : Spares "SELECT" (passes tables suffix) := by
  apply spares_passes
  intro table member
  exact ⟨(separable table member).noSelect,
    folded_append_ne_of_showsDigit (by decide) shows table⟩

theorem spares_from (separable : ∀ table ∈ tables, Separable table)
    (shows : ShowsDigit suffix) : Spares "FROM" (passes tables suffix) := by
  have keyword : startsClause "FROM" = true := by decide
  apply spares_passes
  intro table member
  refine ⟨?_, folded_append_ne_of_showsDigit (by decide) shows table⟩
  intro same
  have idle := (separable table member).idle
  rw [startsClause_of_folded same, keyword] at idle
  cases idle

theorem renamable_of_separable (separable : ∀ table ∈ tables, Separable table)
    (shows : ShowsDigit suffix) : ∀ table ∈ tables, Renamable suffix table := by
  intro table member
  have name := separable table member
  exact renamable_of_showsDigit name.wordlike name.idle shows

theorem ne_nil_of_locate? {sql : Text} {clause : SelectClause}
    (located : SelectClause.locate? sql = some clause) : sql ≠ [] := by
  rintro rfl
  cases located

/-- The query of a shard has a select clause where the query has one, and the same
list of fields if that refers to no planned table. -/
theorem locate?_renameTables (separable : ∀ table ∈ tables, Separable table)
    (shows : ShowsDigit suffix) (isWord : ∀ c ∈ suffix, isWord c = true) {sql : Text}
    {clause : SelectClause} (located : SelectClause.locate? (trim sql) = some clause) :
    ∃ other,
      SelectClause.locate? (renameTables tables suffix (stripTerminator sql)) = some other ∧
      Tight (renameTables tables suffix (stripTerminator sql)) ∧
      Nesting.top.after other.head = Nesting.top.after clause.head ∧
      ((∀ name ∈ clause.listedNames, ∀ table ∈ tables, folded name ≠ folded table) →
        other.fields = clause.fields) := by
  have renamable := renamable_of_separable separable shows
  have tame := tame_passes renamable isWord
  obtain ⟨marks, same⟩ := locate?_stripTerminator sql
  rw [located] at same
  obtain ⟨stripped, found, rfl⟩ := Option.map_eq_some_iff.mp same.symm
  obtain ⟨other, again, level, fields⟩ := locate?_rename tame (spares_select separable shows)
    (spares_from separable shows) found
  rw [renameTables_eq renamable isWord]
  refine ⟨other, again, ?_, level, ?_⟩
  · exact tight_rename tame (tight_stripTerminator (ne_nil_of_locate? found))
      (ne_nil_of_locate? again)
  · intro unplanned
    apply fields
    intro name listed
    exact passes_of_absent suffix (unplanned name listed)

theorem stripTerminator_renameTables (separable : ∀ table ∈ tables, Separable table)
    (shows : ShowsDigit suffix) (isWord : ∀ c ∈ suffix, isWord c = true) {sql : Text}
    {clause : SelectClause} (located : SelectClause.locate? (trim sql) = some clause) :
    stripTerminator (renameTables tables suffix sql) =
      renameTables tables suffix (stripTerminator sql) := by
  have renamable := renamable_of_separable separable shows
  obtain ⟨other, again, -, -, -⟩ := locate?_renameTables separable shows isWord located
  have nonempty := ne_nil_of_locate? again
  rw [renameTables_eq renamable isWord] at nonempty ⊢
  rw [stripTerminator_rename (tame_passes renamable isWord) nonempty,
    renameTables_eq renamable isWord]

/-- Where the list of fields refers to no planned table, it is read from the
statement of a shard as it is from the statement. -/
theorem selectFields_renameTables (separable : ∀ table ∈ tables, Separable table)
    (shows : ShowsDigit suffix) (isWord : ∀ c ∈ suffix, isWord c = true) {sql : Text}
    (unplanned : ∀ clause ∈ SelectClause.locate? (trim sql),
      ∀ name ∈ clause.listedNames, ∀ table ∈ tables, folded name ≠ folded table)
    {clock : Clock} {fields : List SelectField} (read : selectFields clock sql = .ok fields) :
    selectFields clock (renameTables tables suffix sql) = .ok fields := by
  rw [selectFields_eq_ok_iff] at read ⊢
  obtain ⟨clause, located, list⟩ := read
  obtain ⟨other, again, -, -, same⟩ := locate?_renameTables separable shows isWord located
  obtain ⟨marks, trimmed⟩ := locate?_stripTerminator (renameTables tables suffix sql)
  rw [stripTerminator_renameTables separable shows isWord located, again] at trimmed
  refine ⟨_, trimmed, ?_⟩
  simp only [same (unplanned clause located)]
  exact list

/-- All shards of a query have the same columns, if these can be read back. -/
theorem selectFields_branch (separable : ∀ table ∈ tables, Separable table)
    (shows : ShowsDigit suffix) (isWord : ∀ c ∈ suffix, isWord c = true) {sql : Text}
    (outer : ∀ cut ∈ cutAfterSelect? none sql, Nesting.top.after cut.1 = .top)
    {clock : Clock} {fields : List SelectField} (read : selectFields clock sql = .ok fields)
    (legible : ∀ field ∈ fields, field.Legible) (later : Clock) :
    selectFields later
        (replaceFields fields (renameTables tables suffix (stripTerminator sql))) =
      .ok (fields.map (·.explicit)) := by
  obtain ⟨clause, located, some, -, listed⟩ := selectFields_eq_ok_iff.mp read
  obtain ⟨other, again, tight, level, -⟩ := locate?_renameTables separable shows isWord located
  have distinct : (fields.map (·.label)).Nodup := by
    rw [← listed]
    exact nodup_readFields clock _
  have nonempty : fields ≠ [] := by
    rw [← listed]
    obtain ⟨first, others, shape⟩ := List.exists_cons_of_ne_nil some
    rw [shape]
    exact List.cons_ne_nil _ _
  have top : Nesting.top.after clause.head = .top := by
    obtain ⟨selected, -⟩ := SelectClause.locate?_eq_some_iff.mp located
    obtain ⟨lead, following, blank, cut⟩ := cutAfterSelect?_of_trim selected
    have whole := outer _ cut
    rwa [Nesting.after_append, Nesting.sane_top.after_of_isBlank blank] at whole
  rw [← tight.trim_eq] at again
  exact selectFields_replaceFields again (level.trans top) nonempty legible distinct later

end Suffix

end SqlFanout.Sql

namespace SqlFanout.ShardPlan

open Text

/-- A query for some columns over the union of other queries. -/
def unionOf (columns branches : List Text) : Text :=
  "SELECT " ++ join ", " columns ++ " FROM (\n" ++ join " UNION ALL\n" branches ++ "\n) "
    ++ "unionTable"

/-- The queries of all shards, with their fields spelled out. -/
def branches (plan : ShardPlan) (fields : List Sql.SelectField) : List Text :=
  (plan.series.suffixes plan.count).map (plan.branch fields)

theorem checks_of_checkQuery {settings : Settings} {plan : ShardPlan}
    (valid : (plan.checkQuery settings).isValid = true) :
    (plan.check settings).isValid = true ∧ (Sql.checkShape plan.sql).isValid = true := by
  rw [checkQuery, Verdict.orElse] at valid
  split at valid
  next accepted =>
    split at valid
    · exact ⟨accepted, valid⟩
    · cases valid
  next refused => exact absurd valid refused

theorem value_totalsSql (plan : ShardPlan) (fields : List Sql.SelectField)
    (assignment : Assignment) :
    (plan.totalsSql fields assignment).value =
      .ok (unionOf (fields.map (totalOf assignment))
        (plan.branches fields)) := rfl

theorem value_totalsOf (clock : Clock) (assignment : Assignment) (plan : ShardPlan) :
    (plan.totalsOf totalsSql clock assignment).value =
      match Sql.selectFields clock plan.sql with
      | .error fault => .error fault
      | .ok fields =>
          .ok (fields, unionOf (fields.map (totalOf assignment))
            (plan.branches fields)) := by
  rw [totalsOf, Logged.value_bind, Sql.readSelectList]
  cases Sql.selectFields clock plan.sql with
  | error fault => rfl
  | ok fields =>
      simp only [Logged.value_bind, Logged.value_pure, value_totalsSql]

theorem value_generateTotals_of_read {settings : Settings} {clock : Clock}
    {plan : ShardPlan} {fields : List Sql.SelectField}
    (valid : (plan.checkQuery settings).isValid = true)
    (read : Sql.selectFields clock plan.sql = .ok fields) (assignment : Assignment) :
    (plan.generateTotals settings clock assignment).value =
      { sql := unionOf (fields.map (totalOf assignment))
          (plan.branches fields)
        count := plan.count
        tables := plan.tables
        fields := fields
        success := true } := by
  simp only [generateTotals, generateTotalsWith, valid, Bool.not_true, Bool.false_eq_true,
    if_false, Logged.value_bind, value_totalsOf, read]
  rfl

theorem read_of_generateTotals {settings : Settings} {clock : Clock} {assignment : Assignment}
    {plan : ShardPlan}
    (successful : (plan.generateTotals settings clock assignment).value.success = true) :
    (plan.checkQuery settings).isValid = true ∧
      ∃ fields, Sql.selectFields clock plan.sql = .ok fields := by
  rw [generateTotals, generateTotalsWith] at successful
  cases valid : (plan.checkQuery settings).isValid with
  | false =>
      simp only [valid] at successful
      cases successful
  | true =>
      refine ⟨rfl, ?_⟩
      simp only [valid, Bool.not_true, Bool.false_eq_true, if_false, Logged.value_bind,
        value_totalsOf] at successful
      cases read : Sql.selectFields clock plan.sql with
      | error fault =>
          simp only [read] at successful
          split at successful <;> cases successful
      | ok fields => exact ⟨fields, rfl⟩

/-- A statement for totals is made only from a plan that passes all checks and a
query whose fields can be read. -/
theorem value_generateTotals {settings : Settings} {clock : Clock} {assignment : Assignment}
    {plan : ShardPlan}
    (successful : (plan.generateTotals settings clock assignment).value.success = true) :
    (plan.check settings).isValid = true ∧ (Sql.checkShape plan.sql).isValid = true ∧
      ∃ fields, Sql.selectFields clock plan.sql = .ok fields ∧
        (plan.generateTotals settings clock assignment).value =
          { sql := unionOf (fields.map (totalOf assignment))
              (plan.branches fields)
            count := plan.count
            tables := plan.tables
            fields := fields
            success := true } := by
  obtain ⟨valid, fields, read⟩ := read_of_generateTotals successful
  obtain ⟨accepted, shaped⟩ := checks_of_checkQuery valid
  exact ⟨accepted, shaped, fields, read, value_generateTotals_of_read valid read assignment⟩

theorem showsDigit_of_check {settings : Settings} {plan : ShardPlan}
    (accepted : (plan.check settings).isValid = true) :
    ∀ suffix ∈ plan.series.suffixes plan.count, ShowsDigit suffix :=
  fun _ => SuffixSeries.showsDigit_of_mem_suffixes (checkFormat_of_check accepted)

/-- A statement without its terminator and with its own fields spelled out. -/
def spellOut (clock : Clock) (sql : Text) : Except Fault Text :=
  match Sql.selectFields clock sql with
  | .error fault => .error fault
  | .ok fields => .ok (Sql.replaceFields fields (stripTerminator sql))

/-- Where a statement for totals is made, so are the statements of the shards; and
the branches of the union are these statements with their own fields spelled out,
for names and suffixes in word characters that are no keywords, if the list of
fields refers to no planned table. -/
theorem totals_unite_statements {settings : Settings} {clock : Clock}
    {assignment : Assignment} {plan : ShardPlan}
    (successful : (plan.generateTotals settings clock assignment).value.success = true) :
    (plan.generate settings).value.success = true ∧
    ((∀ table ∈ plan.tables, Sql.Separable table) →
      (∀ suffix ∈ plan.series.suffixes plan.count, ∀ c ∈ suffix, isWord c = true) →
      (∀ clause ∈ Sql.SelectClause.locate? (trim plan.sql), ∀ name ∈ clause.listedNames,
        ∀ table ∈ plan.tables, folded name ≠ folded table) →
      let totals := (plan.generateTotals settings clock assignment).value
      totals.sql = unionOf (totals.fields.map (totalOf assignment)) (plan.branches totals.fields) ∧
        (plan.generate settings).value.statements.map (spellOut clock) =
          (plan.branches totals.fields).map .ok) := by
  obtain ⟨accepted, shaped, fields, read, value⟩ := value_generateTotals successful
  have shows := showsDigit_of_check accepted
  rw [value_generate accepted shaped, value]
  refine ⟨rfl, ?_⟩
  intro separable suffixed unplanned
  refine ⟨rfl, ?_⟩
  rw [branches, List.map_map, List.map_map]
  apply List.map_congr_left
  intro suffix listed
  obtain ⟨clause, located, -⟩ := Sql.selectFields_eq_ok_iff.mp read
  have same := Sql.selectFields_renameTables separable (shows suffix listed)
    (suffixed suffix listed) unplanned read
  have stripped := Sql.stripTerminator_renameTables separable (shows suffix listed)
    (suffixed suffix listed) located
  simp only [Function.comp_apply, spellOut, same, stripped]
  rfl

/-- A terminator, and a subquery in the list of fields that refers to a table
outside of the plan. -/
def ratePlan : ShardPlan :=
  { tables := ["orders", "Users"], count := 2
    sql := " select (SELECT MAX(r) FROM rates) AS rate, o.name FROM shop.ORDERS o JOIN users ; " }

theorem totals_unite_statements_rate :
    (ratePlan.generateTotals {} (.stopped 0) []).value.success = true ∧
    (ratePlan.generate {}).value.success = true ∧
    (ratePlan.generateTotals {} (.stopped 0) []).value.sql =
      unionOf ["SUM(unionTable.rate)", "SUM(unionTable.name)"]
        (ratePlan.branches (ratePlan.generateTotals {} (.stopped 0) []).value.fields) ∧
    (ratePlan.generate {}).value.statements.map (spellOut (.stopped 0)) =
      (ratePlan.branches (ratePlan.generateTotals {} (.stopped 0) []).value.fields).map .ok := by
  have successful : (ratePlan.generateTotals {} (.stopped 0) []).value.success = true := by decide
  have names : ∀ table ∈ ratePlan.tables, table ≠ [] ∧ table.all Sql.isNameChar = true ∧
      Sql.startsClause table = false ∧ folded table ≠ folded "SELECT" := by
    decide
  have separable : ∀ table ∈ ratePlan.tables, Sql.Separable table := by
    intro table member
    obtain ⟨nonempty, name, idle, noSelect⟩ := names table member
    exact ⟨.of_isNameChar nonempty (List.all_eq_true.mp name), idle, noSelect⟩
  have words : ∀ suffix ∈ ratePlan.series.suffixes ratePlan.count,
      suffix.all isWord = true := by
    decide
  have unplanned : ∀ clause ∈ Sql.SelectClause.locate? (trim ratePlan.sql),
      ∀ name ∈ clause.listedNames, ∀ table ∈ ratePlan.tables,
        folded name ≠ folded table := by
    decide
  have columns : (ratePlan.generateTotals {} (.stopped 0) []).value.fields.map (totalOf []) =
      ["SUM(unionTable.rate)", "SUM(unionTable.name)"] := by
    decide
  obtain ⟨generated, united⟩ := totals_unite_statements successful
  obtain ⟨spelled, same⟩ := united separable
    (fun suffix listed => List.all_eq_true.mp (words suffix listed)) unplanned
  rw [columns] at spelled
  exact ⟨successful, generated, spelled, same⟩

/-- A planned table in the list of fields is renamed in the statement of the shard
but not in the branch of the union; and a suffix that ends in a semicolon is cut
from the statement but not from the branch. -/
theorem totals_differ_from_statements :
    (∀ plan ∈ ([
        { tables := ["a", "b"], count := 1,
          sql := "SELECT (SELECT MAX(x) FROM b) AS m FROM a" },
        { tables := ["a"], series := { style := .custom, format := "\x7bi\x7d;" }, count := 1,
          sql := "SELECT x FROM a" }] : List ShardPlan),
      (plan.generateTotals {} (.stopped 0) []).value.success = true ∧
      (plan.generate {}).value.success = true ∧
      (plan.generate {}).value.statements.map (spellOut (.stopped 0)) ≠
        (plan.branches (plan.generateTotals {} (.stopped 0) []).value.fields).map .ok) ∧
    (({ tables := ["a", "b"], count := 1,
        sql := "SELECT (SELECT MAX(x) FROM b) AS m FROM a" } :
          ShardPlan).generateTotals {} (.stopped 0) []).value.sql =
      unionOf ["SUM(unionTable.m)"] ["SELECT (SELECT MAX(x) FROM b) AS m FROM a_0"] ∧
    (({ tables := ["a", "b"], count := 1,
        sql := "SELECT (SELECT MAX(x) FROM b) AS m FROM a" } :
          ShardPlan).generate {}).value.statements.map (spellOut (.stopped 0)) =
      [.ok "SELECT (SELECT MAX(x) FROM b_0) AS m FROM a_0"] := by
  decide

/-- The union has one branch per shard.  For plain names and suffixes in ASCII word
characters, a query whose `SELECT` is at top level and fields that are legible,
the fields of the query are read back from every branch, at any time, with their
labels spelled out; and the outer query applies one function to each label, in
order, the one that is assigned to the expression or else the sum. -/
theorem branches_read_back {settings : Settings} {clock : Clock} {assignment : Assignment}
    {plan : ShardPlan}
    (successful : (plan.generateTotals settings clock assignment).value.success = true)
    (named : ∀ table ∈ plan.tables, Sql.PlainName table)
    (suffixed : ∀ suffix ∈ plan.series.suffixes plan.count, IsAsciiWord suffix)
    (outer : ∀ cut ∈ Sql.cutAfterSelect? none plan.sql, Sql.Nesting.top.after cut.1 = .top)
    (legible : ∀ field ∈ (plan.generateTotals settings clock assignment).value.fields,
      field.Legible) :
    let totals := (plan.generateTotals settings clock assignment).value
    totals.sql =
      unionOf
        (totals.fields.map fun field =>
          ((assignment.get? field.expression).getD .sum).apply "unionTable" field.label)
        (plan.branches totals.fields) ∧
    ((plan.branches totals.fields).length : Int) = plan.count ∧
    ∀ branch ∈ plan.branches totals.fields, ∀ later,
      Sql.selectFields later branch = .ok (totals.fields.map (·.explicit)) := by
  obtain ⟨accepted, -, fields, read, value⟩ := value_generateTotals successful
  have shows := showsDigit_of_check accepted
  rw [value] at legible ⊢
  refine ⟨rfl, ?_, ?_⟩
  · have positive := count_pos_of_check accepted
    rw [branches, List.length_map, SuffixSeries.length_suffixes]
    omega
  · intro branch member later
    obtain ⟨suffix, listed, rfl⟩ := List.mem_map.mp member
    have isWord : ∀ c ∈ suffix, isWord c = true := fun c inside =>
      (suffixed suffix listed c inside).2
    exact Sql.selectFields_branch (fun table planned => (named table planned).separable)
      (shows suffix listed) isWord outer read legible later

/-- Commas, an `AS` and a `FROM` in quotes and parentheses, a quoted label, derived
labels, and suffixes that pass a year. -/
def quotedPlan : ShardPlan :=
  { tables := ["orders", "u"], count := 2
    series := { style := .yearMonth, startYear := 2023, startMonth := 12 }
    sql := " SELECT IF(a, ' AS b, ', (SELECT x FROM u)) AS \"c d\", SUM(n) , u.id " ++
      "FROM s.orders o JOIN U;" }

def quotedFields : List Sql.SelectField :=
  [⟨"IF(a, ' AS b, ', (SELECT x FROM u))", "\"c d\"", true⟩, ⟨"SUM(n)", "sum_result", false⟩,
    ⟨"u.id", "id", false⟩]

theorem branches_read_back_quoted :
    (quotedPlan.generateTotals {} (.stopped 0) [("SUM(n)", .max)]).value.success = true ∧
    (∀ table ∈ quotedPlan.tables, Sql.PlainName table) ∧
    (∀ suffix ∈ quotedPlan.series.suffixes quotedPlan.count, IsAsciiWord suffix) ∧
    (quotedPlan.generateTotals {} (.stopped 0) [("SUM(n)", .max)]).value.fields = quotedFields ∧
    (∀ field ∈ quotedFields, field.Legible) ∧
    (quotedPlan.generateTotals {} (.stopped 0) [("SUM(n)", .max)]).value.sql =
      unionOf ["SUM(unionTable.\"c d\")", "MAX(unionTable.sum_result)", "SUM(unionTable.id)"]
        (quotedPlan.branches quotedFields) ∧
    ((quotedPlan.branches quotedFields).length : Int) = 2 ∧
    ∀ branch ∈ quotedPlan.branches quotedFields, ∀ later,
      Sql.selectFields later branch =
        .ok [⟨"IF(a, ' AS b, ', (SELECT x FROM u))", "\"c d\"", true⟩,
          ⟨"SUM(n)", "sum_result", true⟩, ⟨"u.id", "id", true⟩] := by
  have successful :
      (quotedPlan.generateTotals {} (.stopped 0) [("SUM(n)", .max)]).value.success = true := by
    decide
  have names : ∀ table ∈ quotedPlan.tables, Sql.isName table = true ∧
      table.all isAscii = true ∧ lower table ∉ Sql.reservedWords := by
    decide
  have named : ∀ table ∈ quotedPlan.tables, Sql.PlainName table := by
    intro table member
    obtain ⟨name, ascii, free⟩ := names table member
    exact ⟨name, List.all_eq_true.mp ascii, free⟩
  have words : ∀ suffix ∈ quotedPlan.series.suffixes quotedPlan.count,
      suffix.all (fun c => isAscii c && isWord c) = true := by
    decide
  have suffixed : ∀ suffix ∈ quotedPlan.series.suffixes quotedPlan.count,
      IsAsciiWord suffix := by
    intro suffix listed c member
    simpa using List.all_eq_true.mp (words suffix listed) c member
  have outer : ∀ cut ∈ Sql.cutAfterSelect? none quotedPlan.sql,
      Sql.Nesting.top.after cut.1 = .top := by
    decide
  have fields : (quotedPlan.generateTotals {} (.stopped 0) [("SUM(n)", .max)]).value.fields =
      quotedFields := by
    decide
  have legible : ∀ field ∈ quotedFields, field.Legible := by decide
  obtain ⟨spelled, size, read⟩ :=
    branches_read_back successful named suffixed outer (fields ▸ legible)
  rw [fields] at spelled size read
  exact ⟨successful, named, suffixed, fields, legible, spelled, size, read⟩

end SqlFanout.ShardPlan
