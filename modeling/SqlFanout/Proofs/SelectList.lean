import SqlFanout.Proofs.FieldList
import SqlFanout.Proofs.Labels

/-!
# Reading a select list back

A list of fields that is put in the place of the list of a statement is read back
from there, as long as its expressions and labels are closed and no two labels are
equal (`replaced_fields_read_back`).  The statement around the list stays as it was.
-/

namespace SqlFanout.Sql

open Text

/-- A field whose parts are closed and whose label does not look like a wildcard. -/
structure SelectField.Legible (field : SelectField) : Prop where
  expression : Closed field.expression
  label : Closed field.label
  plain : (".*" : Text).isSuffixOf field.label = false

theorem SelectField.legible_iff {field : SelectField} :
    field.Legible ↔ Closed field.expression ∧ Closed field.label ∧
      (".*" : Text).isSuffixOf field.label = false := by
  constructor
  · rintro ⟨expression, label, plain⟩
    exact ⟨expression, label, plain⟩
  · rintro ⟨expression, label, plain⟩
    exact ⟨expression, label, plain⟩

instance (field : SelectField) : Decidable field.Legible :=
  decidable_of_iff _ SelectField.legible_iff.symm

/-- A field whose label is spelled out. -/
def SelectField.explicit (field : SelectField) : SelectField :=
  { field with isExplicit := true }

namespace SelectField.Legible

variable {field : SelectField}

theorem tight (legible : Legible field) : Tight field.render := by
  have whole := legible.expression.tight.append legible.label.tight " AS "
  simpa [render] using whole

theorem balanced (legible : Legible field) : Nesting.top.after field.render = .top := by
  rw [render, Nesting.after_append, Nesting.after_append, legible.expression.balanced]
  exact legible.label.balanced

theorem uncut (legible : Legible field) : Uncut .top field.render := by
  have between : Uncut .top " AS " := by decide
  rw [render, uncut_append_iff, uncut_append_iff, Nesting.after_append,
    legible.expression.balanced]
  exact ⟨⟨legible.expression.noComma, between⟩, legible.label.noComma⟩

theorem noFrom (legible : Legible field) {following : Text}
    (border : isWordAt following.head? = false) {before : Option Char}
    (start : isWordAt before = false) :
    startsAtTop startsFrom following .top before field.render = false := by
  have between : (" AS " : Text).all (fun c => fold c != fold 'F') = true := by decide
  rw [render, startsAtTop_append, startsAtTop_append, Nesting.after_append,
    legible.expression.balanced, startsAtTop_startsFrom_border rfl _ start,
    legible.expression.noFrom, startsAtTop_startsFrom_of_all between,
    startsAtTop_startsFrom_border border]
  · exact legible.label.noFrom
  · have last : lastOr (lastOr before field.expression) " AS " = some ' ' := rfl
    rw [lastOr_append, last]
    decide

theorem splitAlias (legible : Legible field) (millis : Nat) :
    splitAlias millis field.render = field.explicit := by
  have label := legible.label.tight
  have behind : cutAtLastAs? 0 (Nesting.top.after field.expression)
      (" AS " ++ field.label) = some ([], field.label) := by
    have met : afterAs? (' ' :: ("AS " ++ field.label)) = some field.label :=
      congrArg some (trimLeft_eq_self label.first)
    have size : (' ' :: ("AS " ++ field.label)).length - field.label.length - 1 =
        ("AS " : Text).length := by
      simp only [List.length_cons, List.length_append]
      omega
    rw [legible.expression.balanced]
    change cutAtLastAs? 0 .top (' ' :: ("AS " ++ field.label)) = _
    rw [cutAtLastAs?, met]
    simp only [size, cutAtLastAs?_skip]
    rw [show (Nesting.top.step ' ').after "AS " = .top from rfl,
      cutAtLastAs?_eq_none legible.label.noAs 0]
    rfl
  have cut := legible.expression.complete.cutAtLastAs?_append rfl behind (Nat.zero_le _)
  rw [Sql.splitAlias, render, List.append_assoc, cut]
  simp [explicit, legible.expression.tight.trim_eq, label.trim_eq]

theorem not_isWildcard (legible : Legible field) : isWildcard field.render = false := by
  have long : field.render ≠ ['*'] := by
    intro short
    have size := congrArg List.length short
    simp only [render, List.length_append, List.length_singleton] at size
    have four : (" AS " : Text).length = 4 := rfl
    omega
  have unended : ¬(".*" : Text) <:+ field.render := by
    intro ended
    have spaced : ' ' :: field.label <:+ field.render :=
      ⟨field.expression ++ " AS", by simp [render]⟩
    have size : (".*" : Text).length ≤ (' ' :: field.label).length := by
      have positive := List.length_pos_of_ne_nil legible.label.tight.nonempty
      have two : (".*" : Text).length = 2 := rfl
      rw [List.length_cons]
      omega
    rcases List.suffix_cons_iff.mp (List.suffix_of_suffix_length_le ended spaced size) with
      whole | inside
    · cases whole
    · have suffix := List.isSuffixOf_iff_suffix.mpr inside
      rw [legible.plain] at suffix
      cases suffix
  rw [isWildcard, Bool.or_eq_false_iff]
  constructor
  · exact beq_eq_false_iff_ne.mpr long
  · rw [← Bool.not_eq_true, List.isSuffixOf_iff_suffix]
    exact unended

end SelectField.Legible

section Fields

variable {fields : List SelectField}

theorem readFields_render (legible : ∀ field ∈ fields, field.Legible)
    (distinct : (fields.map (·.label)).Nodup) (clock : Clock) {used : List Text}
    (free : ∀ field ∈ fields, field.label ∉ used) :
    readFields clock used (fields.map (·.render)) = fields.map (·.explicit) := by
  induction fields generalizing clock used with
  | nil => rfl
  | cons field fields induction =>
      rw [List.map_cons, List.nodup_cons] at distinct
      have first := legible field List.mem_cons_self
      have label : uniqueAlias field.explicit.label used = field.label :=
        uniqueAlias_of_not_mem (free field List.mem_cons_self)
      have unused : ∀ other ∈ fields, other.label ∉ used ++ [field.label] := by
        intro other member
        rw [List.mem_append, List.mem_singleton, not_or]
        refine ⟨free other (List.mem_cons_of_mem field member), ?_⟩
        intro same
        exact distinct.1 (same ▸ List.mem_map_of_mem member)
      have later := induction
        (fun other member => legible other (List.mem_cons_of_mem field member)) distinct.2
        clock.later unused
      simp only [List.map_cons, readFields, readField, first.splitAlias, label, later]
      rfl

theorem listed_render (legible : ∀ field ∈ fields, field.Legible) :
    Listed (fields.map (·.render)) := by
  refine ⟨List.forall_mem_map.mpr fun field member => (legible field member).tight,
    List.forall_mem_map.mpr fun field member => (legible field member).uncut, ?_⟩
  intro text member
  obtain ⟨field, listed, rfl⟩ := List.mem_map.mp (List.dropLast_subset _ member)
  exact (legible field listed).balanced

theorem balanced_join_render (legible : ∀ field ∈ fields, field.Legible) :
    Nesting.top.after (join ", " (fields.map (·.render))) = .top := by
  induction fields with
  | nil => rfl
  | cons field fields induction =>
      have first := (legible field List.mem_cons_self).balanced
      cases fields with
      | nil => simpa [join] using first
      | cons next fields =>
          have later := induction fun other member =>
            legible other (List.mem_cons_of_mem field member)
          simp only [join, List.map_cons, List.intercalate_cons_cons, Nesting.after_append,
            first] at later ⊢
          exact later

/-- Between borders, no `FROM` shows in a list of fields. -/
theorem noFrom_join_render (legible : ∀ field ∈ fields, field.Legible) {following : Text}
    (border : isWordAt following.head? = false) {before : Option Char}
    (start : isWordAt before = false) :
    startsAtTop startsFrom following .top before (join ", " (fields.map (·.render))) =
      false := by
  induction fields generalizing before with
  | nil => rfl
  | cons field fields induction =>
      have first := legible field List.mem_cons_self
      cases fields with
      | nil => simpa [join] using first.noFrom border start
      | cons next fields =>
          have later := @induction
            (fun other member => legible other (List.mem_cons_of_mem field member)) (some ' ') rfl
          have comma : (", " : Text).all (fun c => fold c != fold 'F') = true := by decide
          simp only [join, List.map_cons, List.intercalate_cons_cons] at later ⊢
          rw [startsAtTop_append, startsAtTop_append, Nesting.after_append, first.balanced,
            first.noFrom (by rfl) start, startsAtTop_startsFrom_of_all comma,
            show Nesting.top.after ", " = .top from rfl]
          simpa [lastOr] using later

theorem replaceFields_of_locate? {sql : Text} {clause : SelectClause}
    (located : SelectClause.locate? (trim sql) = some clause) (fields : List SelectField) :
    replaceFields fields sql =
      clause.head ++ (" " ++ (join ", " (fields.map (·.render)) ++ (" " ++ clause.tail))) := by
  rw [replaceFields, located]
  simp only [List.append_assoc]

/-- Whatever stands in the place of the list, the ends of the statement stay. -/
theorem tight_of_locate? {sql : Text} {clause : SelectClause}
    (located : SelectClause.locate? (trim sql) = some clause) (middle : Text) :
    Tight (clause.head ++ (middle ++ clause.tail)) := by
  obtain ⟨selected, found⟩ := SelectClause.locate?_eq_some_iff.mp located
  obtain ⟨split, headSome, -, -⟩ := cutAfterSelect?_eq_some selected
  obtain ⟨-, -, starts, -⟩ := cutBeforeFrom?_eq_some_iff.mp found
  have tailSome := ne_nil_of_startsFrom starts
  have tight : Tight (trim sql) := tight_trim_of_ne_nil (by simp [split, headSome])
  rw [split] at tight
  exact tight.replace headSome tailSome middle

theorem tight_replaceFields {sql : Text} {clause : SelectClause}
    (located : SelectClause.locate? (trim sql) = some clause) (fields : List SelectField) :
    Tight (replaceFields fields sql) := by
  have tight := tight_of_locate? located (" " ++ (join ", " (fields.map (·.render)) ++ " "))
  rw [replaceFields_of_locate? located]
  simpa only [List.append_assoc] using tight

theorem locate?_replaceFields {sql : Text} {clause : SelectClause}
    (located : SelectClause.locate? (trim sql) = some clause)
    (outer : Nesting.top.after clause.head = .top)
    (legible : ∀ field ∈ fields, field.Legible) :
    SelectClause.locate? (trim (replaceFields fields sql)) =
      some ⟨clause.head, " " ++ (join ", " (fields.map (·.render)) ++ " "), clause.tail⟩ := by
  obtain ⟨selected, found⟩ := SelectClause.locate?_eq_some_iff.mp located
  obtain ⟨-, -, -, again⟩ := cutAfterSelect?_eq_some selected
  obtain ⟨-, -, starts, -⟩ := cutBeforeFrom?_eq_some_iff.mp found
  have spelled : replaceFields fields sql =
      clause.head ++ ((" " ++ (join ", " (fields.map (·.render)) ++ " ")) ++ clause.tail) := by
    rw [replaceFields_of_locate? located]
    simp only [List.append_assoc]
  rw [(tight_replaceFields located fields).trim_eq, spelled, SelectClause.locate?_eq_some_iff]
  constructor
  · exact again _ rfl
  · rw [cutBeforeFrom?_eq_some_iff, outer]
    refine ⟨rfl, ?_, ?_, ?_⟩
    · rw [Nesting.after_append, Nesting.after_append,
        show Nesting.top.after " " = .top from rfl, balanced_join_render legible]
      rfl
    · apply startsFrom_of_border starts
      rw [lastOr_append, lastOr_append]
      rfl
    · have blank : (" " : Text).all (fun c => fold c != fold 'F') = true := by decide
      rw [startsAtTop_append, startsAtTop_append, startsAtTop_startsFrom_of_all blank,
        startsAtTop_startsFrom_of_all blank, show Nesting.top.after " " = .top from rfl,
        noFrom_join_render legible rfl rfl]
      rfl

theorem selectFields_replaceFields {sql : Text} {clause : SelectClause}
    (located : SelectClause.locate? (trim sql) = some clause)
    (outer : Nesting.top.after clause.head = .top) (nonempty : fields ≠ [])
    (legible : ∀ field ∈ fields, field.Legible)
    (distinct : (fields.map (·.label)).Nodup) (clock : Clock) :
    selectFields clock (replaceFields fields sql) = .ok (fields.map (·.explicit)) := by
  have some : fields.map (·.render) ≠ [] := by simpa using nonempty
  have listed := listed_render legible
  have tight := Tight.join ", " some listed.tight
  have plain : (fields.map (·.render)).any isWildcard = false := by
    rw [List.any_map, List.any_eq_false]
    intro field member
    simp [(legible field member).not_isWildcard]
  have trimmed : trim (" " ++ (join ", " (fields.map (·.render)) ++ " ")) =
      join ", " (fields.map (·.render)) :=
    tight.trim_append " " (by simp; rfl)
  have read := @readFields_render fields legible distinct clock [] (by simp)
  rw [selectFields_eq_ok_iff]
  refine ⟨_, locate?_replaceFields located outer legible, ?_⟩
  rw [trimmed, listed.splitFields_join]
  exact ⟨some, plain, read⟩

/-- A statement whose `SELECT` is at top level, with other fields in its list, has
exactly these fields, with their labels spelled out, and is otherwise the trimmed
statement: it has the same text up to `SELECT` and from `FROM` on. -/
theorem replaced_fields_read_back {sql : Text} {place : SelectClause}
    (located : SelectClause.locate? sql = some place)
    (outer : Nesting.top.after place.head = .top) (nonempty : fields ≠ [])
    (legible : ∀ field ∈ fields, field.Legible)
    (distinct : (fields.map (·.label)).Nodup) :
    (∀ clock,
      selectFields clock (replaceFields fields sql) = .ok (fields.map (·.explicit))) ∧
    ∃ clause, SelectClause.locate? (trim sql) = some clause ∧
      trim sql = clause.head ++ (clause.fields ++ clause.tail) ∧
      SelectClause.locate? (replaceFields fields sql) =
        some ⟨clause.head, " " ++ (join ", " (fields.map (·.render)) ++ " "), clause.tail⟩ ∧
      replaceFields fields sql =
        clause.head ++ (" " ++ (join ", " (fields.map (·.render)) ++ (" " ++ clause.tail))) := by
  obtain ⟨lead, trailing, blank, around⟩ := locate?_trim sql
  rw [around, Option.map_eq_some_iff] at located
  obtain ⟨clause, inner, rfl⟩ := located
  have top : Nesting.top.after clause.head = .top := by
    rwa [Nesting.after_append, Nesting.sane_top.after_of_isBlank blank] at outer
  have again := locate?_replaceFields inner top legible
  rw [(tight_replaceFields inner fields).trim_eq] at again
  exact ⟨selectFields_replaceFields inner top nonempty legible distinct, clause, inner,
    eq_append_of_locate? inner, again, replaceFields_of_locate? inner fields⟩

end Fields

/-- A parenthesis that closes nothing, a comma, an `AS` and a `FROM` in parentheses and
in quotes, and labels and names that begin or end like keywords. -/
def hardFields : List SelectField :=
  [⟨"a) + f(b, (c FROM d))", "\"FROM_1 AS x\"", false⟩, ⟨"t.as", "fromage", true⟩]

/-- A statement with blanks around it and a parenthesis that closes nothing. -/
def hardStatement : Text :=
  "\n ) SELECT(`a`, 1)FROM t; "

theorem replaced_fields_read_back_hard :
    SelectClause.locate? hardStatement = some ⟨"\n ) SELECT", "(`a`, 1)", "FROM t; "⟩ ∧
    Nesting.top.after "\n ) SELECT" = .top ∧
    (∀ field ∈ hardFields, field.Legible) ∧ (hardFields.map (·.label)).Nodup ∧
    replaceFields hardFields hardStatement =
      ") SELECT a) + f(b, (c FROM d)) AS \"FROM_1 AS x\", t.as AS fromage FROM t;" ∧
    ∀ clock, selectFields clock (replaceFields hardFields hardStatement) =
      .ok [⟨"a) + f(b, (c FROM d))", "\"FROM_1 AS x\"", true⟩, ⟨"t.as", "fromage", true⟩] := by
  have located : SelectClause.locate? hardStatement =
      some ⟨"\n ) SELECT", "(`a`, 1)", "FROM t; "⟩ := by
    decide
  have outer : Nesting.top.after "\n ) SELECT" = .top := by decide
  have legible : ∀ field ∈ hardFields, field.Legible := by decide
  have distinct : (hardFields.map (·.label)).Nodup := by decide
  have spelled : replaceFields hardFields hardStatement =
      ") SELECT a) + f(b, (c FROM d)) AS \"FROM_1 AS x\", t.as AS fromage FROM t;" := by
    decide
  obtain ⟨read, -⟩ := replaced_fields_read_back located outer (by decide) legible distinct
  exact ⟨located, outer, legible, distinct, spelled, read⟩

end SqlFanout.Sql
