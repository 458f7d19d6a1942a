import SqlFanout.Proofs.DerivedLabels

/-!
# Assigned functions

An item assigns a function to an expression.  The name of a function has neither blanks nor
equals signs, in any spelling, so that an item is read as what was written, whatever the
expression holds (`readItem_text`), and no other items can be read (`readItem_eq_ok_iff`).
Of several items for one expression the last one counts (`get?_ofPairs_eq_some_iff`).  The
expressions of a query have no blanks at their ends and do not depend on the clock, so that
items for all of them decide all columns of the totals (`totals_follow_items`).
-/

namespace SqlFanout

open Text

namespace Keyed

variable {α : Type}

/-- A value stands under a name, and none stands under it later on. -/
def IsLast (pairs : List (Text × α)) (name : Text) (value : α) : Prop :=
  ∃ earlier later, pairs = earlier ++ (name, value) :: later ∧ ∀ pair ∈ later, pair.1 ≠ name

theorem ofPairs_concat (pairs : List (Text × α)) (name : Text) (value : α) :
    ofPairs (pairs ++ [(name, value)]) = put name value (ofPairs pairs) := by
  simp [ofPairs, List.foldl_append]

theorem isLast_concat_iff {pairs : List (Text × α)} {name other : Text} {value current : α} :
    IsLast (pairs ++ [(other, current)]) name value ↔
      name = other ∧ current = value ∨ name ≠ other ∧ IsLast pairs name value := by
  constructor
  · rintro ⟨earlier, later, split, absent⟩
    rcases List.eq_nil_or_concat later with rfl | ⟨later, last, rfl⟩
    · obtain ⟨-, same⟩ := List.append_inj' split rfl
      cases same
      exact .inl ⟨rfl, rfl⟩
    · have parts : pairs ++ [(other, current)] = (earlier ++ (name, value) :: later) ++ [last] := by
        simpa using split
      obtain ⟨rfl, same⟩ := List.append_inj' parts rfl
      cases same
      have differ := absent (other, current) (by simp)
      refine .inr ⟨Ne.symm differ, earlier, later, rfl, ?_⟩
      intro pair member
      exact absent pair (by simp [member])
  · rintro (⟨rfl, rfl⟩ | ⟨differ, earlier, later, rfl, absent⟩)
    · exact ⟨pairs, [], rfl, by simp⟩
    · refine ⟨earlier, later ++ [(other, current)], by simp, ?_⟩
      intro pair member
      rcases List.mem_append.mp member with before | last
      · exact absent pair before
      · obtain rfl := List.mem_singleton.mp last
        exact Ne.symm differ

/-- Of the values that are put under a name, the last one is found. -/
theorem get?_ofPairs_eq_some_iff {pairs : List (Text × α)} {name : Text} {value : α} :
    get? (ofPairs pairs) name = some value ↔ IsLast pairs name value := by
  induction pairs using List.reverseRecOn with
  | nil => simp [ofPairs, get?, IsLast]
  | append_singleton pairs pair induction =>
      obtain ⟨other, current⟩ := pair
      rw [ofPairs_concat, get?_put, isLast_concat_iff, ← induction]
      by_cases same : name = other <;> simp [same]

end Keyed

namespace AggregateFunction

theorem read_name (function : AggregateFunction) : read function.name = .ok function := by
  cases function <;> rfl

theorem name_eq_of_read {text : Text} {function : AggregateFunction}
    (found : read text = .ok function) : text = function.name := by
  rw [read] at found
  split at found
  next other met =>
    cases found
    have named := List.find?_some met
    exact (beq_iff_eq.mp named).symm
  next => cases found

theorem upper_of_letters {function : AggregateFunction} {spelling : Text}
    (letters : List.Forall₂ (fun c letter => c = letter ∨ c = asciiLower letter) spelling
      function.name) : upper spelling = function.name := by
  have checked : (function.name.all fun letter =>
      upperChar letter == [letter] && upperChar (asciiLower letter) == [letter]) = true := by
    cases function <;> decide
  have raised : ∀ letter ∈ function.name,
      upperChar letter = [letter] ∧ upperChar (asciiLower letter) = [letter] := by
    simpa using checked
  generalize function.name = name at letters raised
  induction letters with
  | nil => rfl
  | cons same letters induction =>
      obtain ⟨here, later⟩ := List.forall_mem_cons.mp raised
      rw [upper, List.flatMap_cons, ← upper, induction later]
      rcases same with rfl | rfl
      · rw [here.1, List.singleton_append]
      · rw [here.2, List.singleton_append]

theorem not_mem_of_upper {function : AggregateFunction} {spelling : Text} {c : Char}
    (spells : upper spelling = function.name) (caseless : upperChar c = [c])
    (absent : c ∉ function.name) : c ∉ spelling := by
  intro member
  apply absent
  rw [← spells, upper]
  exact List.mem_flatMap.mpr ⟨c, member, by simp [caseless]⟩

theorem isBlank_of_mem_name (function : AggregateFunction) :
    ∀ c ∈ function.name, isBlank c = false := by
  have checked : (function.name.all fun c => !isBlank c) = true := by
    cases function <;> decide
  simpa using checked

theorem isBlank_of_upper {function : AggregateFunction} {spelling : Text}
    (spells : upper spelling = function.name) : ∀ c ∈ spelling, isBlank c = false := by
  intro c member
  cases blank : isBlank c with
  | false => rfl
  | true =>
      have absent : c ∉ function.name := by
        intro inside
        rw [function.isBlank_of_mem_name c inside] at blank
        cases blank
      exact absurd member (not_mem_of_upper spells (upperChar_of_isBlank blank) absent)

theorem equals_not_mem_of_upper {function : AggregateFunction} {spelling : Text}
    (spells : upper spelling = function.name) : '=' ∉ spelling := by
  apply not_mem_of_upper spells rfl
  cases function <;> decide

theorem tight_of_upper {function : AggregateFunction} {spelling : Text}
    (spells : upper spelling = function.name) : Tight spelling := by
  have visible := isBlank_of_upper spells
  refine ⟨?_, fun c first => visible c (List.mem_of_mem_head? first),
    fun c last => visible c (List.mem_of_mem_getLast? last)⟩
  rintro rfl
  cases function <;> cases spells

end AggregateFunction

namespace Assignment

/-- An expression and a function, as they may be written: the name of the function in any
mixture of small and capital letters, and any blanks around both. -/
structure Item where
  expression : Text
  function : AggregateFunction
  spelling : Text := function.name
  lead : Text := []
  inner : Text := []
  middle : Text := []
  trailing : Text := []
  tight : Tight expression := by decide
  spells : upper spelling = function.name := by decide
  leadBlank : isBlankText lead = true := by decide
  innerBlank : isBlankText inner = true := by decide
  middleBlank : isBlankText middle = true := by decide
  trailingBlank : isBlankText trailing = true := by decide

namespace Item

def text (item : Item) : Text :=
  (item.lead ++ (item.expression ++ item.inner)) ++
    '=' :: (item.middle ++ (item.spelling ++ item.trailing))

def pair (item : Item) : Text × AggregateFunction :=
  (item.expression, item.function)

end Item

/-- An item is read as what is written in it, whether or not there are other equals signs
in its expression. -/
theorem readItem_text (item : Item) : readItem item.text = .ok item.pair := by
  have noEquals : ∀ {margin : Text}, isBlankText margin = true → '=' ∉ margin := by
    intro margin blank member
    exact absurd (isBlankText_iff.mp blank '=' member) (by decide)
  have later : '=' ∉ item.middle ++ (item.spelling ++ item.trailing) := by
    simp only [List.mem_append, not_or]
    exact ⟨noEquals item.middleBlank, AggregateFunction.equals_not_mem_of_upper item.spells,
      noEquals item.trailingBlank⟩
  have expressed := item.tight.trim_between (isBlankText_iff.mp item.leadBlank)
    (isBlankText_iff.mp item.innerBlank)
  have spelled := (AggregateFunction.tight_of_upper item.spells).trim_between
    (isBlankText_iff.mp item.middleBlank) (isBlankText_iff.mp item.trailingBlank)
  have present : isBlankText (item.lead ++ (item.expression ++ item.inner)) = false := by
    rw [isBlankText_append, isBlankText_append, item.tight.not_blank, Bool.false_and,
      Bool.and_false]
  rw [readItem, Item.text, splitAtLast_append _ later]
  simp only [present, Bool.false_eq_true, if_false, spelled, item.spells,
    AggregateFunction.read_name, expressed, Item.pair]

theorem readItem_eq_ok_iff {text : Text} {pair : Text × AggregateFunction} :
    readItem text = .ok pair ↔ ∃ item : Item, item.text = text ∧ item.pair = pair := by
  constructor
  · intro found
    rw [readItem] at found
    split at found
    · cases found
    next left right cut =>
      obtain ⟨rfl, -⟩ := splitAtLast_eq_some cut
      split at found
      · cases found
      next present =>
        split at found
        · cases found
        next function named =>
          cases found
          obtain ⟨lead, inner, leftSplit, leadBlank, innerBlank⟩ := exists_trim left
          obtain ⟨middle, trailing, rightSplit, middleBlank, trailingBlank⟩ := exists_trim right
          refine ⟨{ expression := trim left, function := function, spelling := trim right
                    lead := lead, inner := inner, middle := middle, trailing := trailing
                    tight := tight_trim (by simpa using present)
                    spells := AggregateFunction.name_eq_of_read named
                    leadBlank := isBlankText_iff.mpr leadBlank
                    innerBlank := isBlankText_iff.mpr innerBlank
                    middleBlank := isBlankText_iff.mpr middleBlank
                    trailingBlank := isBlankText_iff.mpr trailingBlank }, ?_, rfl⟩
          rw [Item.text, ← leftSplit, ← rightSplit]
  · rintro ⟨item, rfl, rfl⟩
    exact readItem_text item

theorem readItemsInto_texts (assignment : Assignment) (items : List Item) :
    readItemsInto assignment (items.map (·.text)) =
      .ok (items.foldl (fun assignment item =>
        Keyed.put item.expression item.function assignment) assignment) := by
  induction items generalizing assignment with
  | nil => rfl
  | cons item items induction =>
      rw [List.map_cons, readItemsInto, readItem_text]
      exact induction _

theorem readItems_texts (items : List Item) :
    readItems (items.map (·.text)) = .ok (Keyed.ofPairs (items.map (·.pair))) := by
  rw [readItems, readItemsInto_texts, Keyed.ofPairs, List.foldl_map]
  rfl

end Assignment

namespace Sql

/-- The expression of a clause, which is what stands before its last `AS` at top level. -/
def expressionOf (clause : Text) : Text :=
  match cutAtLastAs? 0 .top clause with
  | some (left, _) => trim left
  | none => trim clause

theorem expression_splitAlias (millis : Nat) (clause : Text) :
    (splitAlias millis clause).expression = expressionOf clause := by
  rw [splitAlias, expressionOf]
  cases cutAtLastAs? 0 .top clause with
  | none => rfl
  | some cut => rfl

theorem tight_expressionOf {clause : Text} (tight : Tight clause) :
    Tight (expressionOf clause) := by
  rw [expressionOf]
  split
  next left right cut =>
    obtain ⟨found, rfl, follows⟩ := cutAtLastAs?_eq_some cut
    obtain ⟨blanks, word, after, rfl, blanksSome, blank, -⟩ := afterAs?_eq_some follows
    rw [← List.append_assoc] at tight
    have shown := tight.not_blank_of_append (by simp [blanksSome])
    rw [isBlankText_append, isBlankText_iff.mpr blank, Bool.and_true] at shown
    exact tight_trim shown
  next => exact tight_trim tight.not_blank

theorem expressions_readFields (clock : Clock) (used clauses : List Text) :
    (readFields clock used clauses).map (·.expression) = clauses.map expressionOf := by
  induction clauses generalizing clock used with
  | nil => rfl
  | cons clause clauses induction =>
      rw [readFields, List.map_cons, List.map_cons, induction]
      exact congrArg (· :: _) (expression_splitAlias (clock 0) clause)

/-- The clock has a part in the labels of a query only. -/
theorem selectFields_of_clock {clock : Clock} {sql : Text} {fields : List SelectField}
    (read : selectFields clock sql = .ok fields) :
    (∀ expression ∈ fields.map (·.expression), Tight expression) ∧
      ∀ later, ∃ others, selectFields later sql = .ok others ∧
        others.map (·.expression) = fields.map (·.expression) := by
  obtain ⟨clause, located, nonempty, noWildcard, rfl⟩ := selectFields_eq_ok_iff.mp read
  constructor
  · rw [expressions_readFields, List.forall_mem_map]
    intro piece listed
    exact tight_expressionOf ((listed_splitFields _).tight piece listed)
  · intro later
    refine ⟨readFields later [] (splitFields (trim clause.fields)), ?_, ?_⟩
    · exact selectFields_eq_ok_iff.mpr ⟨clause, located, nonempty, noWildcard, rfl⟩
    · rw [expressions_readFields, expressions_readFields]

end Sql

namespace ShardPlan

theorem value_unassigned {clock : Clock} {plan : ShardPlan} {fields : List Sql.SelectField}
    (read : Sql.selectFields clock plan.sql = .ok fields) (assignment : Assignment) :
    (plan.unassigned clock assignment).value =
      .ok ((fields.map (·.expression)).filter fun expression =>
        (assignment.get? expression).isNone) := by
  simp [unassigned, Sql.readSelectList, read]

/-- Where a statement for totals is made, items that say the functions of all expressions,
each with its last word on it, can be read; the totals then apply the functions that they
say, at all times, and no expression is left without one. -/
theorem totals_follow_items {settings : Settings} {clock : Clock} {former : Assignment}
    {plan : ShardPlan}
    (successful : (plan.generateTotals settings clock former).value.success = true) :
    let expressions :=
      (plan.generateTotals settings clock former).value.fields.map (·.expression)
    (∀ expression ∈ expressions, Tight expression) ∧
    ∀ (choice : Text → AggregateFunction) (items : List Assignment.Item),
      (∀ expression ∈ expressions,
        Keyed.IsLast (items.map (·.pair)) expression (choice expression)) →
      ∃ assignment, Assignment.readItems (items.map (·.text)) = .ok assignment ∧
        ∀ later,
          let totals := (plan.generateTotals settings later assignment).value
          totals.success = true ∧ totals.fields.map (·.expression) = expressions ∧
            totals.sql =
              unionOf
                (totals.fields.map fun field =>
                  (choice field.expression).apply unionAlias field.label)
                (plan.branches totals.fields) ∧
            (plan.unassigned later assignment).value = .ok [] := by
  obtain ⟨valid, fields, read⟩ := read_of_generateTotals successful
  obtain ⟨tight, anytime⟩ := Sql.selectFields_of_clock read
  rw [value_generateTotals_of_read valid read former]
  intro expressions
  refine ⟨tight, ?_⟩
  intro choice items said
  refine ⟨Keyed.ofPairs (items.map (·.pair)), Assignment.readItems_texts items, ?_⟩
  intro later
  obtain ⟨others, again, same⟩ := anytime later
  have chosen : ∀ expression ∈ others.map (·.expression),
      Keyed.get? (Keyed.ofPairs (items.map (·.pair))) expression = some (choice expression) := by
    intro expression member
    rw [same] at member
    exact Keyed.get?_ofPairs_eq_some_iff.mpr (said expression member)
  have columns : others.map (totalOf (Keyed.ofPairs (items.map (·.pair)))) =
      others.map fun field => (choice field.expression).apply unionAlias field.label := by
    apply List.map_congr_left
    intro field member
    rw [totalOf, chosen field.expression (List.mem_map_of_mem member), Option.getD_some]
  rw [value_generateTotals_of_read valid again, value_unassigned again]
  refine ⟨rfl, same, congrArg (unionOf · _) columns, congrArg Except.ok ?_⟩
  apply List.filter_eq_nil_iff.mpr
  intro expression member
  simp [chosen expression member]

/-- Expressions with equals signs and blanks, one of them twice, and one whose label is made
from the clock. -/
def comparingPlan : ShardPlan :=
  { tables := ["t"], count := 2
    sql := "SELECT a = 'x' AS same, COUNT(1), f(b = c, 1), t.d, COUNT(1) AS n FROM t" }

/-- Two items for one expression and one for an expression of no field, in other spellings
and another order than the fields have. -/
def comparingItems : List Assignment.Item :=
  [{ expression := "t.d", function := .min },
    { expression := "COUNT(1)", function := .max, spelling := "mAx", lead := " ", inner := "\t" },
    { expression := "z =", function := .avg, middle := "\u3000" },
    { expression := "f(b = c, 1)", function := .sum, spelling := "ſum", trailing := "\r\n" },
    { expression := "t.d", function := .avg, spelling := "avg" },
    { expression := "a = 'x'", function := .count, spelling := "Count", inner := " ", middle := " " }]

def comparingChoice (expression : Text) : AggregateFunction :=
  if expression = "a = 'x'" then .count
  else if expression = "COUNT(1)" then .max
  else if expression = "t.d" then .avg
  else .sum

theorem totals_follow_items_comparing :
    (comparingPlan.generateTotals {} (.stopped 0) []).value.success = true ∧
    (∀ expression ∈
      (comparingPlan.generateTotals {} (.stopped 0) []).value.fields.map (·.expression),
      Keyed.IsLast (comparingItems.map (·.pair)) expression (comparingChoice expression)) ∧
    ∃ assignment,
      Assignment.readItems ["t.d=MIN", " COUNT(1)\t=mAx", "z ==\u3000AVG",
        "f(b = c, 1)=ſum\r\n", "t.d=avg", "a = 'x' = Count"] = .ok assignment ∧
      (comparingPlan.generateTotals {} (20010 + ·) assignment).value.sql =
        unionOf ["COUNT(unionTable.same)", "MAX(unionTable.count_result)",
          "SUM(unionTable.field_12)", "AVG(unionTable.d)", "MAX(unionTable.n)"]
          (comparingPlan.branches
            (comparingPlan.generateTotals {} (20010 + ·) assignment).value.fields) ∧
      (comparingPlan.unassigned (20010 + ·) assignment).value = .ok [] := by
  have successful :
      (comparingPlan.generateTotals {} (.stopped 0) []).value.success = true := by
    decide
  have found : ∀ expression ∈
      (comparingPlan.generateTotals {} (.stopped 0) []).value.fields.map (·.expression),
      Keyed.get? (Keyed.ofPairs (comparingItems.map (·.pair))) expression =
        some (comparingChoice expression) := by
    decide
  have said := fun expression member =>
    Keyed.get?_ofPairs_eq_some_iff.mp (found expression member)
  obtain ⟨assignment, read, anytime⟩ :=
    (totals_follow_items successful).2 comparingChoice comparingItems said
  obtain ⟨-, -, sql, none⟩ := anytime (20010 + ·)
  have labels :
      ((comparingPlan.generateTotals {} (20010 + ·) assignment).value.fields.map fun field =>
        (comparingChoice field.expression).apply unionAlias field.label) =
      ["COUNT(unionTable.same)", "MAX(unionTable.count_result)", "SUM(unionTable.field_12)",
        "AVG(unionTable.d)", "MAX(unionTable.n)"] := by
    rfl
  rw [labels] at sql
  exact ⟨successful, said, assignment, read, sql, none⟩

end ShardPlan

end SqlFanout
