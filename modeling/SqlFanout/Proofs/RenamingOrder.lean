import Mathlib.Data.List.Perm.Basic
import SqlFanout.Proofs.PlainNames
import SqlFanout.Shard.Statements

/-!
# The order of the tables of a plan

The tables of a plan are renamed one after another, each in the text that the
ones before it have left.  A reference can therefore be renamed twice, when its
new name is the name of a table that is still to come, and two spellings of one
table compete for it.  `statements_orderless_iff` shows that these are the only
two ways in which the order of the tables matters, and that where neither
happens every reference to a planned table has the suffix appended once.
-/

namespace SqlFanout.Sql

open Text

theorem passes_cons (table : Text) (tables : List Text) (suffix name : Text) :
    passes (table :: tables) suffix name =
      passes tables suffix (retarget table (table ++ suffix) name) := rfl

theorem passes_append (left right : List Text) (suffix name : Text) :
    passes (left ++ right) suffix name =
      passes right suffix (passes left suffix name) := by
  exact List.foldl_append

theorem passes_of_absent {tables : List Text} {name : Text} (suffix : Text)
    (absent : ∀ table ∈ tables, folded name ≠ folded table) :
    passes tables suffix name = name := by
  induction tables with
  | nil => rfl
  | cons table tables induction =>
      have first := absent table List.mem_cons_self
      rw [passes_cons, retarget, if_neg first]
      exact induction fun other member => absent other (List.mem_cons_of_mem table member)

theorem length_le_passes (tables : List Text) (suffix name : Text) :
    name.length ≤ (passes tables suffix name).length := by
  induction tables generalizing name with
  | nil => exact Nat.le_refl _
  | cons table tables induction =>
      rw [passes_cons]
      refine Nat.le_trans ?_ (induction _)
      rw [retarget]
      split
      next same =>
        rw [List.length_append, length_eq_of_folded same]
        omega
      next => exact Nat.le_refl _

/-- One spelling of a name at most is planned, and its new name is no planned one. -/
def Settled (tables : List Text) (suffix name : Text) : Prop :=
  ∀ table ∈ tables, folded table = folded name → ∀ other ∈ tables,
    folded other ≠ folded (table ++ suffix) ∧ (folded other = folded name → other = table)

instance (tables : List Text) (suffix name : Text) : Decidable (Settled tables suffix name) :=
  inferInstanceAs (Decidable (∀ table ∈ tables, folded table = folded name →
    ∀ other ∈ tables, folded other ≠ folded (table ++ suffix) ∧
      (folded other = folded name → other = table)))

theorem Settled.of_perm {tables others : List Text} {suffix name : Text}
    (settled : Settled tables suffix name) (permutation : others.Perm tables) :
    Settled others suffix name := by
  intro table member same other otherMember
  exact settled table (permutation.mem_iff.mp member) same other
    (permutation.mem_iff.mp otherMember)

/-- The new name of a reference, if it is found among the tables. -/
def suffixedOnce (tables : List Text) (suffix name : Text) : Text :=
  match tables.find? fun table => folded table == folded name with
  | some table => table ++ suffix
  | none => name

private theorem passes_of_single {tables : List Text} {suffix name table : Text}
    (member : table ∈ tables) (same : folded table = folded name)
    (single : ∀ other ∈ tables, folded other = folded name → other = table)
    (final : ∀ other ∈ tables, folded other ≠ folded (table ++ suffix)) :
    passes tables suffix name = table ++ suffix := by
  induction tables with
  | nil => cases member
  | cons first tables induction =>
      have finalLater : ∀ other ∈ tables, folded other ≠ folded (table ++ suffix) :=
        fun other later => final other (List.mem_cons_of_mem first later)
      rw [passes_cons, retarget]
      split
      next found =>
        have equal : first = table := single first List.mem_cons_self found.symm
        rw [equal]
        exact passes_of_absent suffix fun other later => (finalLater other later).symm
      next missed =>
        have later : table ∈ tables := by
          rcases List.mem_cons.mp member with rfl | later
          · exact absurd same.symm missed
          · exact later
        exact induction later
          (fun other listed => single other (List.mem_cons_of_mem first listed)) finalLater

theorem Settled.passes_eq {tables : List Text} {suffix name : Text}
    (settled : Settled tables suffix name) :
    passes tables suffix name = suffixedOnce tables suffix name := by
  rw [suffixedOnce]
  split
  next table found =>
    have member := List.mem_of_find?_eq_some found
    have same : folded table = folded name := by simpa using List.find?_some found
    exact passes_of_single member same
      (fun other listed => (settled table member same other listed).2)
      (fun other listed => (settled table member same other listed).1)
  next absent =>
    refine passes_of_absent suffix fun table member same => ?_
    have different := List.find?_eq_none.mp absent table member
    exact different (beq_iff_eq.mpr same.symm)

theorem Settled.suffixedOnce_perm {tables others : List Text} {suffix name : Text}
    (settled : Settled tables suffix name) (permutation : others.Perm tables) :
    suffixedOnce others suffix name = suffixedOnce tables suffix name := by
  rw [suffixedOnce, suffixedOnce]
  cases found : tables.find? fun table => folded table == folded name with
  | none =>
      have absent : others.find? (fun table => folded table == folded name) = none := by
        rw [List.find?_eq_none] at found ⊢
        exact fun table member => found table (permutation.mem_iff.mp member)
      rw [absent]
  | some table =>
      have member := List.mem_of_find?_eq_some found
      have same : folded table = folded name := by simpa using List.find?_some found
      cases other : others.find? fun table => folded table == folded name with
      | none =>
          have different := List.find?_eq_none.mp other table (permutation.mem_iff.mpr member)
          exact absurd (beq_iff_eq.mpr same) different
      | some table' =>
          have listed := permutation.mem_iff.mp (List.mem_of_find?_eq_some other)
          have same' : folded table' = folded name := by simpa using List.find?_some other
          rw [(settled table member same table' listed).2 same']

/-- With the other tables first, a spelling of the name gives the suffixed name. -/
private theorem exists_order_of_spelling {tables : List Text} {suffix name table : Text}
    (nonempty : suffix ≠ []) (member : table ∈ tables)
    (same : folded table = folded name) :
    ∃ order, order.Perm tables ∧ passes order suffix name = table ++ suffix := by
  let spelled : Text → Bool := fun other => folded other == folded name
  have listed : table ∈ tables.filter spelled :=
    List.mem_filter.mpr ⟨member, beq_iff_eq.mpr same⟩
  refine ⟨tables.filter (fun other => !spelled other) ++
    table :: (tables.filter spelled).erase table, ?_, ?_⟩
  · have back := (List.perm_cons_erase listed).symm
    exact ((back.append_left _).trans List.perm_append_comm).trans
      (List.filter_append_perm spelled tables)
  · have unchanged : passes (tables.filter fun other => !spelled other) suffix name = name := by
      refine passes_of_absent suffix fun other kept equal => ?_
      have different := (List.mem_filter.mp kept).2
      simp [spelled, equal] at different
    rw [passes_append, unchanged, passes_cons, retarget, if_pos same.symm]
    refine passes_of_absent suffix fun other kept equal => ?_
    have spelling := (List.mem_filter.mp (List.mem_of_mem_erase kept)).2
    have size := length_eq_of_folded (same.trans (beq_iff_eq.mp spelling).symm)
    have longer := length_eq_of_folded equal
    have positive := List.length_pos_of_ne_nil nonempty
    rw [List.length_append] at longer
    omega

/-- With a table first whose new name is planned, the reference is renamed twice. -/
private theorem exists_order_of_chain {tables : List Text} {suffix name table other : Text}
    (nonempty : suffix ≠ []) (member : table ∈ tables) (otherMember : other ∈ tables)
    (same : folded table = folded name) (chained : folded other = folded (table ++ suffix)) :
    ∃ order, order.Perm tables ∧
      name.length + 2 * suffix.length ≤ (passes order suffix name).length := by
  have positive := List.length_pos_of_ne_nil nonempty
  have size := length_eq_of_folded same
  have longer := length_eq_of_folded chained
  rw [List.length_append] at longer
  have different : other ≠ table := by
    rintro rfl
    omega
  have later : other ∈ tables.erase table := (List.mem_erase_of_ne different).mpr otherMember
  refine ⟨table :: other :: (tables.erase table).erase other, ?_, ?_⟩
  · have back := (List.perm_cons_erase later).symm
    exact (back.cons table).trans (List.perm_cons_erase member).symm
  · rw [passes_cons, retarget, if_pos same.symm, passes_cons, retarget, if_pos chained.symm]
    refine Nat.le_trans ?_ (length_le_passes _ suffix _)
    rw [List.length_append]
    omega

/-- The order of the tables does not matter to a name exactly if it is settled. -/
theorem settled_iff_orderless {tables : List Text} {suffix : Text} (nonempty : suffix ≠ [])
    (name : Text) :
    (∀ order, order.Perm tables → passes order suffix name = passes tables suffix name) ↔
      Settled tables suffix name := by
  constructor
  · intro orderless table member same other otherMember
    obtain ⟨order, permutation, result⟩ := exists_order_of_spelling nonempty member same
    rw [orderless order permutation] at result
    constructor
    · intro chained
      obtain ⟨order, permutation, twice⟩ :=
        exists_order_of_chain nonempty member otherMember same chained
      rw [orderless order permutation, result, List.length_append,
        length_eq_of_folded same] at twice
      have positive := List.length_pos_of_ne_nil nonempty
      omega
    · intro otherSame
      obtain ⟨order, permutation, otherResult⟩ :=
        exists_order_of_spelling nonempty otherMember otherSame
      rw [orderless order permutation, result] at otherResult
      exact (List.append_left_inj suffix).mp otherResult.symm
  · intro settled order permutation
    rw [settled.passes_eq, (settled.of_perm permutation).passes_eq,
      settled.suffixedOnce_perm permutation]

/-- Two orders of the tables leave the same text exactly if they do the same to
every name that the text refers to. -/
theorem renameTables_eq_iff {tables others : List Text} {suffix : Text}
    (renamable : ∀ table ∈ tables, Renamable suffix table)
    (otherRenamable : ∀ table ∈ others, Renamable suffix table)
    (isWord : ∀ c ∈ suffix, isWord c = true) (sql : Text) :
    renameTables tables suffix sql = renameTables others suffix sql ↔
      ∀ name ∈ referredNames sql, passes tables suffix name = passes others suffix name := by
  have proper := proper_rename (tame_passes renamable isWord) .elsewhere (proper_tokens sql)
  have otherProper :=
    proper_rename (tame_passes otherRenamable isWord) .elsewhere (proper_tokens sql)
  rw [renameTables_eq renamable isWord, renameTables_eq otherRenamable isWord, referredNames,
    ← rename_eq_iff]
  constructor
  · intro spelled
    rw [← tokens_spell proper, spelled, tokens_spell otherProper]
  · intro equal
    rw [equal]

theorem renameTables_orderless_iff {tables : List Text} {suffix : Text}
    (shows : ShowsDigit suffix) (renamable : ∀ table ∈ tables, Renamable suffix table)
    (isWord : ∀ c ∈ suffix, isWord c = true) (sql : Text) :
    (∀ order, order.Perm tables →
        renameTables order suffix sql = renameTables tables suffix sql) ↔
      ∀ name ∈ referredNames sql, Settled tables suffix name := by
  have nonempty : suffix ≠ [] := by
    rintro rfl
    obtain ⟨d, member, -⟩ := shows
    cases member
  have texts : ∀ order, order.Perm tables →
      (renameTables order suffix sql = renameTables tables suffix sql ↔
        ∀ name ∈ referredNames sql,
          passes order suffix name = passes tables suffix name) := by
    intro order permutation
    have orderRenamable : ∀ table ∈ order, Renamable suffix table :=
      fun table member => renamable table (permutation.mem_iff.mp member)
    exact renameTables_eq_iff orderRenamable renamable isWord sql
  constructor
  · intro orderless name referred
    refine (settled_iff_orderless nonempty name).mp fun order permutation => ?_
    exact (texts order permutation).mp (orderless order permutation) name referred
  · intro settled order permutation
    refine (texts order permutation).mpr fun name referred => ?_
    exact (settled_iff_orderless nonempty name).mpr (settled name referred) order permutation

end SqlFanout.Sql

namespace SqlFanout.ShardPlan

open Text

/-- Every name that the statement refers to is settled under every suffix. -/
def Separated (plan : ShardPlan) : Prop :=
  ∀ suffix ∈ plan.series.suffixes plan.count, ∀ name ∈ Sql.referredNames plan.sql,
    Sql.Settled plan.tables suffix name

instance (plan : ShardPlan) : Decidable plan.Separated :=
  inferInstanceAs (Decidable (∀ suffix ∈ plan.series.suffixes plan.count,
    ∀ name ∈ Sql.referredNames plan.sql, Sql.Settled plan.tables suffix name))

theorem value_statements (plan : ShardPlan) :
    plan.statements.value =
      .ok ((plan.series.suffixes plan.count).map fun suffix =>
        Sql.renameTables plan.tables suffix plan.sql) := rfl

/-- The statements of an accepted plan do not depend on the order of its tables
exactly if the names they refer to are settled, and then each reference to a
planned table has the suffix appended once.  Names are word characters in every
spelling and no keyword that starts a table clause; suffixes are word
characters. -/
theorem statements_orderless_iff {settings : Settings} {plan : ShardPlan}
    (accepted : (plan.check settings).isValid = true)
    (named : ∀ table ∈ plan.tables, Wordlike table ∧ Sql.startsClause table = false)
    (suffixed : ∀ suffix ∈ plan.series.suffixes plan.count, ∀ c ∈ suffix,
      isWord c = true) :
    ((∀ tables, tables.Perm plan.tables →
        { plan with tables := tables }.statements.value = plan.statements.value) ↔
      plan.Separated) ∧
    (plan.Separated →
      plan.statements.value =
        .ok ((plan.series.suffixes plan.count).map fun suffix =>
          Sql.spell (Sql.rename (Sql.suffixedOnce plan.tables suffix) .elsewhere
            (Sql.tokens plan.sql)))) := by
  have shows : ∀ suffix ∈ plan.series.suffixes plan.count, ShowsDigit suffix :=
    fun suffix => SuffixSeries.showsDigit_of_mem_suffixes (checkFormat_of_check accepted)
  have renamable : ∀ suffix ∈ plan.series.suffixes plan.count, ∀ table ∈ plan.tables,
      Sql.Renamable suffix table := by
    intro suffix listed table member
    obtain ⟨wordlike, idle⟩ := named table member
    exact Sql.renamable_of_showsDigit wordlike idle (shows suffix listed)
  constructor
  · have settled : ∀ suffix ∈ plan.series.suffixes plan.count,
        ((∀ tables, tables.Perm plan.tables →
            Sql.renameTables tables suffix plan.sql =
              Sql.renameTables plan.tables suffix plan.sql) ↔
          ∀ name ∈ Sql.referredNames plan.sql, Sql.Settled plan.tables suffix name) :=
      fun suffix listed => Sql.renameTables_orderless_iff (shows suffix listed)
        (renamable suffix listed) (suffixed suffix listed) plan.sql
    constructor
    · intro orderless suffix listed
      refine (settled suffix listed).mp fun tables permutation => ?_
      have lists := Except.ok.inj (orderless tables permutation)
      exact List.map_inj_left.mp lists suffix listed
    · intro separated tables permutation
      refine congrArg Except.ok (List.map_congr_left fun suffix listed => ?_)
      exact (settled suffix listed).mpr (separated suffix listed) tables permutation
  · intro separated
    rw [value_statements]
    refine congrArg Except.ok (List.map_congr_left fun suffix listed => ?_)
    rw [Sql.renameTables_eq (renamable suffix listed) (suffixed suffix listed)]
    refine congrArg Sql.spell ((Sql.rename_eq_iff _ _ _ _).mpr fun name referred => ?_)
    exact (separated suffix listed name referred).passes_eq

def shopPlan : ShardPlan :=
  { tables := ["orders", "Users"], count := 2,
    sql := "SELECT users FROM shop.ORDERS JOIN users" }

theorem statements_orderless_shop :
    (shopPlan.check {}).isValid = true ∧
    (∀ table ∈ shopPlan.tables, Wordlike table ∧ Sql.startsClause table = false) ∧
    shopPlan.Separated ∧
    (∀ tables, tables.Perm shopPlan.tables →
      { shopPlan with tables := tables }.statements.value = shopPlan.statements.value) ∧
    shopPlan.statements.value =
      .ok ["SELECT users FROM shop.orders_0 JOIN Users_0",
        "SELECT users FROM shop.orders_1 JOIN Users_1"] := by
  have accepted : (shopPlan.check {}).isValid = true := by decide
  have names : ∀ table ∈ shopPlan.tables, table ≠ [] ∧
      table.all Sql.isNameChar = true ∧ Sql.startsClause table = false := by
    decide
  have named : ∀ table ∈ shopPlan.tables,
      Wordlike table ∧ Sql.startsClause table = false := by
    intro table member
    obtain ⟨nonempty, name, idle⟩ := names table member
    exact ⟨.of_isNameChar nonempty (List.all_eq_true.mp name), idle⟩
  have words : ∀ suffix ∈ shopPlan.series.suffixes shopPlan.count,
      suffix.all isWord = true := by
    decide
  have suffixed : ∀ suffix ∈ shopPlan.series.suffixes shopPlan.count, ∀ c ∈ suffix,
      isWord c = true := fun suffix listed => List.all_eq_true.mp (words suffix listed)
  have separated : shopPlan.Separated := by decide
  obtain ⟨orderless, once⟩ := statements_orderless_iff accepted named suffixed
  exact ⟨accepted, named, separated, orderless.mpr separated,
    (once separated).trans (by decide)⟩

/-- The order matters where the new name of a table is planned too, where a table
is planned in two spellings, where a keyword is planned, and where a suffix is no
word. -/
theorem statements_depend_on_order :
    (∀ plan ∈ ([
        { tables := ["a", "a_0"], count := 1, sql := "SELECT * FROM a JOIN a_0" },
        { tables := ["a", "A"], count := 1, sql := "SELECT * FROM a" },
        { tables := ["from", "x"], count := 1, sql := "UPDATE from x" },
        { tables := ["a", "b0"], series := { format := ".b" }, count := 1,
          sql := "SELECT * FROM a" }] : List ShardPlan),
      (plan.check {}).isValid = true ∧ (Sql.checkShape plan.sql).isValid = true ∧
        { plan with tables := plan.tables.reverse }.statements.value ≠
          plan.statements.value) ∧
    ({ tables := ["a", "a_0"], count := 1,
        sql := "SELECT * FROM a JOIN a_0" } : ShardPlan).statements.value =
      .ok ["SELECT * FROM a_0_0 JOIN a_0_0"] := by
  decide

end SqlFanout.ShardPlan
