import Mathlib.Data.List.Nodup
import SqlFanout.Proofs.Suffixes
import SqlFanout.Shard.Statements

/-!
# Shards are told apart

A statement whose table is renamed is a frame: its references are the holes, and
the suffix is what they are filled with.  So two shards of a plan with one table
have the same statement only if they have the same suffix, and no two suffixes of
an accepted plan are equal.
-/

namespace SqlFanout.Sql

open Text

/-- A statement with a hole behind every reference to a table. -/
def referenceFrame (table sql : Text) : Frame :=
  ((referenceFinder table).scan sql).flatMap fun
    | .found leading _ => (leading ++ table).map some ++ [none]
    | .plain c => [some c]

theorem renameTable_eq_fill (table suffix sql : Text) :
    renameTable table (table ++ suffix) sql = (referenceFrame table sql).fill suffix := by
  rw [renameTable, Finder.substitute, referenceFrame]
  induction (referenceFinder table).scan sql with
  | nil => rfl
  | cons piece pieces induction =>
      rw [List.flatMap_cons, List.flatMap_cons, Frame.fill_append, ← induction]
      cases piece with
      | plain c => rfl
      | found leading text =>
          rw [Frame.fill_append, Frame.fill_map_some]
          simp

theorem none_mem_referenceFrame {table sql : Text}
    (referred : (referenceFinder table).findAll sql ≠ []) :
    none ∈ referenceFrame table sql := by
  obtain ⟨leading, others, shape⟩ := List.exists_cons_of_ne_nil referred
  have member : leading ∈ (referenceFinder table).findAll sql := by simp [shape]
  obtain ⟨piece, listed, found⟩ := List.mem_filterMap.mp member
  apply List.mem_flatMap.mpr
  refine ⟨piece, listed, ?_⟩
  cases piece with
  | plain c => cases found
  | found value text => simp

/-- Where a text refers to a table, the renamed text shows the suffix. -/
theorem renameTable_suffix_injective {table sql : Text}
    (referred : (referenceFinder table).findAll sql ≠ []) :
    Function.Injective fun suffix => renameTable table (table ++ suffix) sql := by
  intro left right same
  simp only [renameTable_eq_fill] at same
  exact Frame.fill_injective (none_mem_referenceFrame referred) same

end SqlFanout.Sql

namespace SqlFanout

open Text

namespace SuffixSeries

theorem length_suffixes (series : SuffixSeries) (count : Int) :
    (series.suffixes count).length = count.toNat := by
  rw [suffixes, List.length_map, List.length_range]

theorem nodup_suffixes {series : SuffixSeries}
    (valid : (series.style.checkFormat series.format).isValid = true) (count : Int) :
    (series.suffixes count).Nodup := by
  apply List.Nodup.map _ List.nodup_range
  intro left right same
  exact Int.ofNat.inj (suffix_injective valid same)

end SuffixSeries

namespace ShardPlan

theorem value_generate {settings : Settings} {plan : ShardPlan}
    (accepted : (plan.check settings).isValid = true)
    (shaped : (Sql.checkShape plan.sql).isValid = true) :
    (plan.generate settings).value =
      { statements := (plan.series.suffixes plan.count).map fun suffix =>
          Sql.renameTables plan.tables suffix plan.sql
        count := plan.count
        tables := plan.tables
        success := true } := by
  have verdict : ((plan.check settings).orElse fun _ => Sql.checkShape plan.sql).isValid =
      true := by
    rw [Verdict.orElse, if_pos accepted]
    exact shaped
  simp only [generate, generateWith, verdict]
  rfl

/-- No two shards of an accepted plan coincide.  There are as many suffixes as
shards and no two of them are equal, in every style and for every format; and if
the plan has one table, whatever its name is, and the statement refers to it, no
two of the statements are equal. -/
theorem shards_distinct {settings : Settings} {plan : ShardPlan}
    (accepted : (plan.check settings).isValid = true)
    (shaped : (Sql.checkShape plan.sql).isValid = true) :
    ((plan.series.suffixes plan.count).length : Int) = plan.count ∧
    (plan.series.suffixes plan.count).Nodup ∧
    ∀ table, plan.tables = [table] →
      (Sql.referenceFinder table).findAll plan.sql ≠ [] →
        (plan.generate settings).value.success = true ∧
        ((plan.generate settings).value.statements.length : Int) = plan.count ∧
        (plan.generate settings).value.statements.Nodup := by
  have positive := count_pos_of_check accepted
  have size : ((plan.series.suffixes plan.count).length : Int) = plan.count := by
    rw [SuffixSeries.length_suffixes]
    omega
  have distinct := SuffixSeries.nodup_suffixes (checkFormat_of_check accepted) plan.count
  refine ⟨size, distinct, ?_⟩
  intro table single referred
  rw [value_generate accepted shaped]
  refine ⟨rfl, ?_, ?_⟩
  · rw [List.length_map]
    exact size
  · apply List.Nodup.map _ distinct
    intro left right same
    simp only [single, Sql.renameTables, List.foldl_cons, List.foldl_nil] at same
    exact Sql.renameTable_suffix_injective referred same

/-- Placeholders of two kinds around a digit, and a name that is no word. -/
def mixedPlan : ShardPlan :=
  { tables := ["a-b"], count := 12, sql := "SELECT x FROM s.A-b, c JOIN a-b"
    series := { style := .custom, format := "\x7bi\x7d1\x7bINDEX\x7d" } }

theorem shards_distinct_mixed :
    (mixedPlan.check {}).isValid = true ∧
    (Sql.checkShape mixedPlan.sql).isValid = true ∧
    (Sql.referenceFinder "a-b").findAll mixedPlan.sql ≠ [] ∧
    (mixedPlan.generate {}).value.statements.take 2 =
      ["SELECT x FROM s.a-b010, c JOIN a-b010", "SELECT x FROM s.a-b111, c JOIN a-b111"] ∧
    (mixedPlan.series.suffixes mixedPlan.count).length = 12 ∧
    (mixedPlan.series.suffixes mixedPlan.count).Nodup ∧
    (mixedPlan.generate {}).value.statements.Nodup := by
  have accepted : (mixedPlan.check {}).isValid = true := by decide
  have shaped : (Sql.checkShape mixedPlan.sql).isValid = true := by decide
  have referred : (Sql.referenceFinder "a-b").findAll mixedPlan.sql ≠ [] := by decide
  have shown : (mixedPlan.generate {}).value.statements.take 2 =
      ["SELECT x FROM s.a-b010, c JOIN a-b010",
        "SELECT x FROM s.a-b111, c JOIN a-b111"] := by
    decide
  obtain ⟨size, suffixes, statements⟩ := shards_distinct accepted shaped
  exact ⟨accepted, shaped, referred, shown, Int.ofNat.inj size, suffixes,
    (statements _ rfl referred).2.2⟩

end ShardPlan

end SqlFanout
