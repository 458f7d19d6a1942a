import SqlFanout.Proofs.FieldList
import SqlFanout.Proofs.Labels
import SqlFanout.Proofs.PlainNames
import SqlFanout.Proofs.UnionBranches

/-!
# Derived labels

A label that a field has not been given is derived from its expression: from the name
of the aggregate function that it calls, from the clock, or from what follows its last
dot.  Only the second kind is a word whatever the expression is
(`singleWord_deriveAlias_iff`), and a number behind a label changes nothing about it.
So the derived labels of a statement are words exactly if all expressions without a
label of their own are of a kind that names one.
-/

namespace SqlFanout.Text

/-- A text of word characters, and of at least one. -/
def SingleWord (text : Text) : Prop :=
  text ≠ [] ∧ ∀ c ∈ text, isWord c = true

instance (text : Text) : Decidable (SingleWord text) :=
  decidable_of_iff (text ≠ [] ∧ text.all isWord = true) (by simp [SingleWord])

theorem singleWord_append_iff {left right : Text} (nonempty : left ≠ []) :
    SingleWord (left ++ right) ↔ SingleWord left ∧ ∀ c ∈ right, isWord c = true := by
  simp only [SingleWord, List.forall_mem_append, ne_eq, List.append_eq_nil_iff, nonempty,
    false_and, not_false_eq_true, true_and]

theorem isWord_of_mem_ofNat {n : Nat} {d : Char} (member : d ∈ ofNat n) : isWord d = true :=
  isWord_of_isAsciiDigit (isAsciiDigit_of_mem_ofNat member)

theorem splitAtLast_eq_none_iff {mark : Char} {text : Text} :
    splitAtLast mark text = none ↔ mark ∉ text := by
  induction text with
  | nil => simp [splitAtLast]
  | cons c rest induction =>
      rw [splitAtLast, List.mem_cons]
      cases found : splitAtLast mark rest with
      | none =>
          have absent : mark ∉ rest := induction.mp found
          simp [absent, eq_comm]
      | some cut =>
          have present : mark ∈ rest := by simpa [found] using induction
          simp [present]

theorem splitAtLast_eq_some {mark : Char} {text before after : Text}
    (found : splitAtLast mark text = some (before, after)) :
    text = before ++ mark :: after ∧ mark ∉ after := by
  induction text generalizing before with
  | nil => cases found
  | cons c rest induction =>
      rw [splitAtLast] at found
      split at found
      next front behind later =>
        cases found
        obtain ⟨rfl, absent⟩ := induction later
        exact ⟨rfl, absent⟩
      next none =>
        split at found
        next same =>
          cases found
          exact ⟨by rw [same]; rfl, splitAtLast_eq_none_iff.mp none⟩
        next => cases found

theorem splitAtLast_append {mark : Char} (before : Text) {after : Text} (absent : mark ∉ after) :
    splitAtLast mark (before ++ mark :: after) = some (before, after) := by
  induction before with
  | nil => simp [splitAtLast, splitAtLast_eq_none_iff.mpr absent]
  | cons c before induction => rw [List.cons_append, splitAtLast, induction]

theorem afterLast_cases (mark : Char) (text : Text) :
    text = afterLast mark text ∨ ∃ before, text = before ++ mark :: afterLast mark text := by
  rw [afterLast]
  cases found : splitAtLast mark text with
  | none => exact .inl rfl
  | some cut =>
      obtain ⟨split, -⟩ := splitAtLast_eq_some found
      exact .inr ⟨cut.1, split⟩

theorem afterLast_of_not_mem {mark : Char} {text : Text} (absent : mark ∉ text) :
    afterLast mark text = text := by
  rw [afterLast, splitAtLast_eq_none_iff.mpr absent]

theorem afterLast_append {mark : Char} (before : Text) {after : Text} (absent : mark ∉ after) :
    afterLast mark (before ++ mark :: after) = after := by
  rw [afterLast, splitAtLast_append before absent]

end SqlFanout.Text

namespace SqlFanout.Sql

open Text

/-- An expression that starts with a name and an opening parenthesis. -/
def OpensCall (name expression : Text) : Prop :=
  ∃ blanks rest, expression = name ++ (blanks ++ '(' :: rest) ∧ ∀ c ∈ blanks, isBlank c = true

/-- An expression that starts with a call of an aggregate function, with the name as it
is spelled. -/
structure CallsAggregate (name expression : Text) : Prop where
  spells : ∃ aggregate ∈ aggregateNames, folded name = folded aggregate
  opens : OpensCall name expression

theorem opensCall_iff {name expression rest : Text} (split : expression = name ++ rest) :
    OpensCall name expression ↔ (trimLeft rest).head? = some '(' := by
  subst split
  constructor
  · rintro ⟨blanks, more, same, blank⟩
    rw [List.append_cancel_left same, trimLeft, List.dropWhile_append_of_pos blank]
    rfl
  · intro opened
    obtain ⟨more, found⟩ := List.head?_eq_some_iff.mp opened
    refine ⟨rest.takeWhile isBlank, more, ?_, fun c => List.mem_takeWhile_imp⟩
    rw [← found, trimLeft, List.takeWhile_append_dropWhile]

theorem leadingAggregate?_eq_some_imp {name expression : Text}
    (found : leadingAggregate? expression = some name) : CallsAggregate name expression := by
  obtain ⟨aggregate, listed, met⟩ := List.exists_of_findSome?_eq_some found
  split at met
  next rest follows =>
    obtain ⟨head, rfl, same⟩ := afterFolded?_eq_some_iff.mp follows
    split at met
    next opened =>
      rw [← length_eq_of_folded same, List.take_left] at met
      cases met
      exact ⟨⟨aggregate, listed, same⟩, (opensCall_iff rfl).mpr (by simpa using opened)⟩
    next => cases met
  next => cases met

namespace CallsAggregate

theorem isNameChar {name expression : Text} (calls : CallsAggregate name expression) :
    ∀ c ∈ name, isNameChar c = true := by
  have letters : ∀ aggregate ∈ aggregateNames, aggregate.all Sql.isNameChar = true := by
    decide
  obtain ⟨aggregate, listed, same⟩ := calls.spells
  intro c member
  have inside : fold c ∈ folded aggregate := same ▸ List.mem_map_of_mem member
  obtain ⟨d, letter, equal⟩ := List.mem_map.mp inside
  have name := List.all_eq_true.mp (letters aggregate listed) d letter
  exact isNameChar_of_sameLetter (by simp [sameLetter, equal]) name

theorem nonempty {name expression : Text} (calls : CallsAggregate name expression) :
    name ≠ [] := by
  have lengths : ∀ aggregate ∈ aggregateNames, aggregate.length ≠ 0 := by decide
  obtain ⟨aggregate, listed, same⟩ := calls.spells
  rintro rfl
  exact lengths aggregate listed (length_eq_of_folded same).symm

theorem mem_parenthesis {name expression : Text} (calls : CallsAggregate name expression) :
    '(' ∈ expression := by
  obtain ⟨blanks, rest, rfl, -⟩ := calls.opens
  simp

/-- The name is the word that the expression begins with, so there is only one. -/
theorem eq_takeWhile {name expression : Text} (calls : CallsAggregate name expression) :
    name = expression.takeWhile isWord := by
  obtain ⟨blanks, rest, rfl, blank⟩ := calls.opens
  have letters : ∀ c ∈ name, isWord c = true := fun c member =>
    isWord_of_isNameChar (calls.isNameChar c member)
  rw [List.takeWhile_append_of_pos letters]
  have border : (blanks ++ '(' :: rest).takeWhile isWord = [] := by
    cases blanks with
    | nil => rfl
    | cons c blanks =>
        have noWord := isWord_of_isBlank (blank c List.mem_cons_self)
        simp [noWord]
  rw [border, List.append_nil]

end CallsAggregate

theorem leadingAggregate?_eq_some_iff {name expression : Text} :
    leadingAggregate? expression = some name ↔ CallsAggregate name expression := by
  refine ⟨leadingAggregate?_eq_some_imp, ?_⟩
  intro calls
  cases found : leadingAggregate? expression with
  | some other =>
      rw [calls.eq_takeWhile, (leadingAggregate?_eq_some_imp found).eq_takeWhile]
  | none =>
      obtain ⟨aggregate, listed, same⟩ := calls.spells
      obtain ⟨blanks, rest, split, blank⟩ := calls.opens
      have missed := List.findSome?_eq_none_iff.mp found aggregate listed
      have opened := (opensCall_iff split).mp calls.opens
      rw [split, afterFolded?_of_folded _ same] at missed
      simp [opened] at missed

/-- An expression from which a word is derived.  The lower case of a dotted capital I
has a combining dot, which is no word character. -/
inductive Nameable (expression : Text) : Prop where
  | aggregate (name : Text) (calls : CallsAggregate name expression) (plain : 'İ' ∉ name)
  | call (opens : '(' ∈ expression) (other : ∀ name, ¬CallsAggregate name expression)
  | column (last : Text) (word : SingleWord last) (closed : '(' ∉ expression)
      (dotted : expression = last ∨ ∃ qualifier, expression = qualifier ++ '.' :: last)

set_option maxRecDepth 4000 in
/-- Only the dotted capital I leaves the word characters when it is lowered. -/
theorem isWord_lowerChar_iff {c : Char} (name : isNameChar c = true) :
    (∀ d ∈ lowerChar c, isWord d = true) ↔ c ≠ 'İ' := by
  rw [← List.all_eq_true]
  exact folded_cases
    (fun c => isNameChar c = true → ((lowerChar c).all isWord = true ↔ c ≠ 'İ'))
    (by decide) (by decide) (isAscii_fold_of_isNameChar name) name

theorem CallsAggregate.isWord_lower_iff {name expression : Text}
    (calls : CallsAggregate name expression) :
    (∀ d ∈ lower name, isWord d = true) ↔ 'İ' ∉ name := by
  rw [lower_eq_flatMap fun c member => isAscii_fold_of_isNameChar (calls.isNameChar c member)]
  simp only [List.mem_flatMap, forall_exists_index, and_imp]
  constructor
  · intro words dotted
    have name := calls.isNameChar 'İ' dotted
    exact (isWord_lowerChar_iff name).mp (fun d => words d 'İ' dotted) rfl
  · intro plain d c member lowered
    apply (isWord_lowerChar_iff (calls.isNameChar c member)).mpr _ d lowered
    rintro rfl
    exact plain member

theorem CallsAggregate.singleWord_label_iff {name expression : Text}
    (calls : CallsAggregate name expression) :
    SingleWord (lower name ++ "_result") ↔ 'İ' ∉ name := by
  have nonempty : lower name ++ ("_result" : Text) ≠ [] := by simp
  have ending : ∀ d ∈ ("_result" : Text), isWord d = true := List.all_eq_true.mp (by decide)
  rw [SingleWord, List.forall_mem_append, calls.isWord_lower_iff]
  simp only [nonempty, ne_eq, not_false_eq_true, true_and]
  exact ⟨And.left, fun plain => ⟨plain, ending⟩⟩

theorem singleWord_afterLast_iff {expression : Text} (closed : '(' ∉ expression) :
    SingleWord (afterLast '.' expression) ↔ Nameable expression := by
  constructor
  · intro word
    exact .column _ word closed (afterLast_cases '.' expression)
  · intro nameable
    cases nameable with
    | aggregate name calls plain => exact absurd calls.mem_parenthesis closed
    | call opens other => exact absurd opens closed
    | column last word closed dotted =>
        have undotted : '.' ∉ last := by
          intro member
          have letter := word.2 '.' member
          revert letter
          decide
        rcases dotted with rfl | ⟨qualifier, rfl⟩
        · rwa [afterLast_of_not_mem undotted]
        · rwa [afterLast_append qualifier undotted]

theorem singleWord_deriveAlias_iff {millis : Nat} {expression : Text} :
    SingleWord (deriveAlias millis expression) ↔ Nameable expression := by
  rw [deriveAlias]
  cases leading : leadingAggregate? expression with
  | some name =>
      have calls := leadingAggregate?_eq_some_iff.mp leading
      rw [calls.singleWord_label_iff]
      constructor
      · intro plain
        exact .aggregate name calls plain
      · intro nameable
        cases nameable with
        | aggregate other otherCalls plain =>
            rwa [calls.eq_takeWhile, ← otherCalls.eq_takeWhile]
        | call opens other => exact absurd calls (other name)
        | column last word closed dotted => exact absurd calls.mem_parenthesis closed
  | none =>
      have other : ∀ name, ¬CallsAggregate name expression := by
        intro name calls
        rw [leadingAggregate?_eq_some_iff.mpr calls] at leading
        cases leading
      simp only [List.contains_iff_mem]
      split
      next opens =>
        have numbered : SingleWord ("field_" ++ ofNat (millis % 10000)) :=
          (singleWord_append_iff (by decide)).mpr ⟨by decide, fun _ => isWord_of_mem_ofNat⟩
        exact iff_of_true numbered (.call opens other)
      next closed => exact singleWord_afterLast_iff closed

instance (expression : Text) : Decidable (Nameable expression) :=
  decidable_of_iff (SingleWord (deriveAlias 0 expression)) singleWord_deriveAlias_iff

theorem numberedAlias_ne_nil (base : Text) (number : Nat) : numberedAlias base number ≠ [] := by
  simp [numberedAlias]

theorem singleWord_numberedAlias_iff {base : Text} (nonempty : base ≠ []) (number : Nat) :
    SingleWord (numberedAlias base number) ↔ SingleWord base := by
  have underscore : ∀ c ∈ ("_" : Text), isWord c = true := List.all_eq_true.mp (by decide)
  rw [numberedAlias, List.append_assoc, singleWord_append_iff nonempty, and_iff_left]
  exact List.forall_mem_append.mpr ⟨underscore, fun _ => isWord_of_mem_ofNat⟩

namespace IsFirstFree

variable {base label : Text} {used : List Text}

theorem singleWord_iff (first : IsFirstFree base used label) (nonempty : base ≠ []) :
    SingleWord label ↔ SingleWord base := by
  rcases first with ⟨-, rfl⟩ | ⟨-, number, -, rfl, -⟩
  · exact Iff.rfl
  · exact singleWord_numberedAlias_iff nonempty number

theorem ne_nil (first : IsFirstFree base used label) (nonempty : base ≠ []) : label ≠ [] := by
  rcases first with ⟨-, rfl⟩ | ⟨-, number, -, rfl, -⟩
  · exact nonempty
  · exact numberedAlias_ne_nil base number

/-- The empty label is taken by the first field that wants it. -/
theorem eq_nil (first : IsFirstFree [] used label) (free : [] ∉ used) : label = [] := by
  rcases first with ⟨-, rfl⟩ | ⟨taken, -⟩
  · rfl
  · exact absurd taken free

end IsFirstFree

theorem cutAtLastAs?_eq_some {skip : Nat} {nesting : Nesting} {text left right : Text}
    (cut : cutAtLastAs? skip nesting text = some (left, right)) :
    ∃ found, text = left ++ found ∧ afterAs? found = some right := by
  induction text generalizing skip nesting left with
  | nil => cases skip <;> cases cut
  | cons c text induction =>
      have extend : ∀ {skip : Nat},
          (cutAtLastAs? skip (nesting.step c) text).map (Prod.map (c :: ·) id) =
            some (left, right) →
          ∃ found, c :: text = left ++ found ∧ afterAs? found = some right := by
        intro skip mapped
        obtain ⟨⟨before, behind⟩, later, same⟩ := Option.map_eq_some_iff.mp mapped
        cases same
        obtain ⟨found, rfl, follows⟩ := induction later
        exact ⟨found, rfl, follows⟩
      cases skip with
      | succ skip => exact extend cut
      | zero =>
          rw [cutAtLastAs?] at cut
          split at cut
          next after met =>
            cases later : cutAtLastAs? ((c :: text).length - after.length - 1)
                (nesting.step c) text with
            | some behind =>
                simp only [later] at cut
                apply extend
                rw [later]
                exact cut
            | none =>
                simp only [later] at cut
                split at cut
                next =>
                  cases cut
                  exact ⟨c :: text, rfl, met⟩
                next => cases cut
          next => exact extend cut

/-- What is behind the last `AS` of a clause without blanks at its ends is not blank. -/
theorem label_ne_nil_of_isExplicit {millis : Nat} {clause : Text} (tight : Tight clause)
    (spelled : (splitAlias millis clause).isExplicit = true) :
    (splitAlias millis clause).label ≠ [] := by
  rw [splitAlias] at spelled ⊢
  split
  next left right cut =>
    obtain ⟨found, rfl, follows⟩ := cutAtLastAs?_eq_some cut
    obtain ⟨lead, word, blanks, rfl, -, -, -, blanksSome, blank⟩ := afterAs?_eq_some follows
    intro gone
    cases present : isBlankText right with
    | false => exact (tight_trim present).nonempty gone
    | true =>
        have ending : blanks ++ right ≠ [] := by simp [blanksSome]
        have last := tight.last ((blanks ++ right).getLast ending)
          (by simp [List.getLast?_append, List.getLast?_eq_some_getLast ending])
        rcases List.mem_append.mp (List.getLast_mem ending) with inside | inside
        · rw [blank _ inside] at last
          cases last
        · rw [isBlankText_iff.mp present _ inside] at last
          cases last
  next uncut =>
    rw [uncut] at spelled
    cases spelled

theorem splitAlias_derived {millis : Nat} {clause : Text}
    (derived : (splitAlias millis clause).isExplicit = false) :
    (splitAlias millis clause).label =
      deriveAlias millis (splitAlias millis clause).expression := by
  rw [splitAlias] at derived ⊢
  split
  next cut =>
    rw [cut] at derived
    cases derived
  next => rfl

/-- A field is labelled by a word if one is derived from its expression.  The converse
holds as long as no field has an empty label. -/
theorem singleWord_readField {millis : Nat} {used : List Text} {clause : Text}
    (derived : (readField millis used clause).1.isExplicit = false) :
    (Nameable (readField millis used clause).1.expression →
      SingleWord (readField millis used clause).1.label) ∧
    ([] ∉ used → SingleWord (readField millis used clause).1.label →
      Nameable (readField millis used clause).1.expression) := by
  have first := isFirstFree_uniqueAlias (splitAlias millis clause).label used
  change (splitAlias millis clause).isExplicit = false at derived
  change (Nameable (splitAlias millis clause).expression →
      SingleWord (uniqueAlias (splitAlias millis clause).label used)) ∧
    ([] ∉ used → SingleWord (uniqueAlias (splitAlias millis clause).label used) →
      Nameable (splitAlias millis clause).expression)
  rw [splitAlias_derived derived] at first ⊢
  constructor
  · intro nameable
    have word : SingleWord (deriveAlias millis (splitAlias millis clause).expression) :=
      singleWord_deriveAlias_iff.mpr nameable
    exact (first.singleWord_iff word.1).mpr word
  · intro free word
    apply singleWord_deriveAlias_iff.mp
    apply (first.singleWord_iff _).mp word
    intro empty
    rw [empty] at first word
    exact word.1 (first.eq_nil free)

theorem singleWord_readInTurn {used : List Text} {requests : List (Nat × Text)} :
    ∀ field ∈ (readInTurn used requests).1, field.isExplicit = false →
      Nameable field.expression → SingleWord field.label := by
  induction requests generalizing used with
  | nil => simp [readInTurn]
  | cons request requests induction =>
      rw [readInTurn_cons, List.forall_mem_cons]
      exact ⟨fun derived => (singleWord_readField derived).1, induction⟩

theorem nameable_readInTurn {used : List Text} {requests : List (Nat × Text)}
    (tight : ∀ request ∈ requests, Tight request.2) (free : [] ∉ used)
    (words : ∀ field ∈ (readInTurn used requests).1, field.isExplicit = false →
      SingleWord field.label) :
    ∀ field ∈ (readInTurn used requests).1, field.isExplicit = false →
      Nameable field.expression := by
  induction requests generalizing used with
  | nil => simp [readInTurn]
  | cons request requests induction =>
      obtain ⟨millis, clause⟩ := request
      rw [readInTurn_cons, List.forall_mem_cons] at words ⊢
      obtain ⟨word, laterWords⟩ := words
      have labelled : (readField millis used clause).1.label ≠ [] := by
        cases spelled : (readField millis used clause).1.isExplicit with
        | false => exact (word spelled).1
        | true =>
            apply (isFirstFree_uniqueAlias _ used).ne_nil
            exact label_ne_nil_of_isExplicit (tight (millis, clause) List.mem_cons_self) spelled
      refine ⟨fun derived => (singleWord_readField derived).2 free (word derived), ?_⟩
      apply induction (fun other member => tight other (List.mem_cons_of_mem _ member)) _ laterWords
      intro taken
      rcases List.mem_append.mp taken with old | new
      · exact free old
      · exact labelled (List.mem_singleton.mp new).symm

end SqlFanout.Sql

namespace SqlFanout.ShardPlan

open Text

/-- All labels that the fields of a query are not given are words exactly if each of
their expressions names itself, and every field of such an expression has a word as its
label.  In the outer query over the union, the column of a field then refers to the
union's table by that word, which is the label of no other field. -/
theorem derived_labels_name_columns {clock : Clock} {sql : Text} {fields : List Sql.SelectField}
    (read : Sql.selectFields clock sql = .ok fields) :
    ((∀ field ∈ fields, field.isExplicit = false → SingleWord field.label) ↔
      ∀ field ∈ fields, field.isExplicit = false → Sql.Nameable field.expression) ∧
    (∀ field ∈ fields, field.isExplicit = false → Sql.Nameable field.expression →
      SingleWord field.label ∧ ∀ other ∈ fields, other.label = field.label → other = field) ∧
    ∀ settings assignment plan, plan.sql = sql →
      (generateTotals settings clock assignment plan).value.success = true →
      (generateTotals settings clock assignment plan).value.sql =
        unionOf
          (fields.map fun field =>
            ((assignment.get? field.expression).getD .sum).apply "unionTable" field.label)
          (plan.branches fields) := by
  obtain ⟨clause, -, -, -, inTurn⟩ := Sql.selectFields_eq_ok_iff.mp read
  have distinct := Sql.nodup_readFields clock (Sql.splitFields (trim clause.fields))
  rw [inTurn] at distinct
  have words : ∀ field ∈ fields, field.isExplicit = false → Sql.Nameable field.expression →
      SingleWord field.label := by
    rw [← inTurn, Sql.readFields_eq]
    exact Sql.singleWord_readInTurn
  refine ⟨⟨?_, ?_⟩, ?_, ?_⟩
  · rw [← inTurn, Sql.readFields_eq]
    apply Sql.nameable_readInTurn _ List.not_mem_nil
    intro request member
    obtain ⟨turn, inside, rfl⟩ := List.mem_mapIdx.mp member
    exact (Sql.listed_splitFields _).tight _ (List.getElem_mem inside)
  · intro nameable field member derived
    exact words field member derived (nameable field member derived)
  · intro field member derived nameable
    refine ⟨words field member derived nameable, ?_⟩
    intro other listed same
    exact List.inj_on_of_nodup_map distinct listed member same
  · rintro settings assignment plan rfl successful
    obtain ⟨-, -, found, again, value⟩ := value_generateTotals successful
    rw [read] at again
    cases again
    rw [value]
    rfl

/-- An aggregate in an unusual spelling, a dotted name, another call, an expression
with a label of its own, and a label that is wanted twice. -/
def namedPlan : ShardPlan :=
  { tables := ["t"], count := 1
    sql := "SELECT ſum (a), t.c, f(x), a + b AS s, c FROM t" }

theorem derived_labels_name_columns_numbered :
    Sql.selectFields (.stopped 7) namedPlan.sql =
      .ok [⟨"ſum (a)", "ſum_result", false⟩, ⟨"t.c", "c", false⟩,
        ⟨"f(x)", "field_7", false⟩, ⟨"a + b", "s", true⟩, ⟨"c", "c_1", false⟩] ∧
    SingleWord "ſum_result" ∧ SingleWord "c" ∧ SingleWord "field_7" ∧ SingleWord "c_1" ∧
    (namedPlan.generateTotals {} (.stopped 7) []).value.success = true ∧
    (namedPlan.generateTotals {} (.stopped 7) []).value.sql =
      unionOf ["SUM(unionTable.ſum_result)", "SUM(unionTable.c)", "SUM(unionTable.field_7)",
          "SUM(unionTable.s)", "SUM(unionTable.c_1)"]
        ["SELECT ſum (a) AS ſum_result, t.c AS c, f(x) AS field_7, a + b AS s, c AS c_1 FROM t_0"] := by
  have read : Sql.selectFields (.stopped 7) namedPlan.sql =
      .ok [⟨"ſum (a)", "ſum_result", false⟩, ⟨"t.c", "c", false⟩,
        ⟨"f(x)", "field_7", false⟩, ⟨"a + b", "s", true⟩, ⟨"c", "c_1", false⟩] := by
    decide
  have successful : (namedPlan.generateTotals {} (.stopped 7) []).value.success = true := by decide
  obtain ⟨words, -, columns⟩ := derived_labels_name_columns read
  have named := words.mpr (by decide)
  simp only [List.forall_mem_cons, List.not_mem_nil] at named
  obtain ⟨sum, column, call, -, again, -⟩ := named
  have branches : namedPlan.branches
      [⟨"ſum (a)", "ſum_result", false⟩, ⟨"t.c", "c", false⟩, ⟨"f(x)", "field_7", false⟩,
        ⟨"a + b", "s", true⟩, ⟨"c", "c_1", false⟩] =
      ["SELECT ſum (a) AS ſum_result, t.c AS c, f(x) AS field_7, a + b AS s, c AS c_1 FROM t_0"] := by
    decide
  have outer := columns {} [] namedPlan rfl successful
  rw [branches] at outer
  exact ⟨read, sum trivial, column trivial, call trivial, again trivial, successful, outer⟩

/-- An operator, a trailing dot and a dotted capital I leave a label that is no word;
the first of them ends up in the outer query. -/
theorem derived_label_no_word :
    Sql.selectFields (.stopped 0) "SELECT a + b FROM t" = .ok [⟨"a + b", "a + b", false⟩] ∧
    Sql.selectFields (.stopped 0) "SELECT t. FROM t" = .ok [⟨"t.", "", false⟩] ∧
    Sql.selectFields (.stopped 0) "SELECT MİN(x) FROM t" =
      .ok [⟨"MİN(x)", "mi\u0307n_result", false⟩] ∧
    ¬SingleWord "a + b" ∧ ¬SingleWord "" ∧ ¬SingleWord "mi\u0307n_result" ∧
    (generateTotals {} (.stopped 0) []
        { tables := ["t"], count := 1, sql := "SELECT a + b FROM t" }).value.sql =
      "SELECT SUM(unionTable.a + b) FROM (\nSELECT a + b AS a + b FROM t_0\n) unionTable" := by
  decide

end SqlFanout.ShardPlan
