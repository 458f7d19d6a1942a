import Mathlib.Data.List.Count
import Mathlib.Data.List.Perm.Subperm
import SqlFanout.Proofs.DerivedLabels
import SqlFanout.Proofs.QuotedLiterals
import SqlFanout.Proofs.ReferredTables
import SqlFanout.Sql.Shape

/-!
# Counting tables

The tables of a text are listed by one pass that looks every name up in the list so far,
and counted by another that collects all names first.  Both take the references of the
text as they are written, leave out bare keywords, and keep what follows the dot
(`citedTables`).  So the statistics speak of the names that are listed, each at the
place of its first reference, and of all references (`statistics_of_references`).
-/

namespace SqlFanout.Text

section Names

variable {α : Type} [BEq α] [LawfulBEq α]

/-- Dropping repetitions keeps the items in the order of their first appearance. -/
theorem pairwise_idxOf_eraseDups (list : List α) :
    list.eraseDups.Pairwise fun first second => list.idxOf first < list.idxOf second := by
  induction list using List.reverseRecOn with
  | nil => simp
  | append_singleton list item induction =>
      have kept : list.eraseDups.Pairwise fun first second =>
          (list ++ [item]).idxOf first < (list ++ [item]).idxOf second := by
        refine induction.imp_of_mem fun {first second} inFirst inSecond before => ?_
        rw [List.idxOf_append_of_mem (List.mem_eraseDups.mp inFirst),
          List.idxOf_append_of_mem (List.mem_eraseDups.mp inSecond)]
        exact before
      rw [List.eraseDups_append]
      by_cases listed : item ∈ list
      · simpa [List.removeAll, listed] using kept
      · have fresh : [item].removeAll list = [item] := by simp [List.removeAll, listed]
        rw [fresh, List.pairwise_append]
        refine ⟨kept, by simp [List.eraseDups_cons], fun first inFirst second last => ?_⟩
        have inList := List.mem_eraseDups.mp inFirst
        obtain rfl : second = item := by simpa using List.mem_eraseDups.mp last
        rw [List.idxOf_append_of_mem inList, List.idxOf_append_of_notMem listed]
        exact Nat.lt_add_right _ (List.idxOf_lt_length_of_mem inList)

theorem nodup_eraseDups (list : List α) : list.eraseDups.Nodup :=
  (pairwise_idxOf_eraseDups list).imp fun before same => absurd before (by simp [same])

theorem length_eraseDups_eq_iff {list : List α} :
    list.eraseDups.length = list.length ↔ list.Nodup := by
  have inside : list.eraseDups.Subperm list :=
    (nodup_eraseDups list).subperm fun _ => List.mem_eraseDups.mp
  constructor
  · intro same
    exact (inside.perm_of_length_le same.ge).nodup_iff.mp (nodup_eraseDups list)
  · intro distinct
    have around : list.Subperm list.eraseDups :=
      distinct.subperm fun _ => List.mem_eraseDups.mpr
    exact Nat.le_antisymm inside.length_le around.length_le

/-- What is dropped is a further appearance of an item that is kept. -/
theorem length_eq_length_eraseDups_iff {list : List α} :
    list.length = list.eraseDups.length ↔ ¬ ∃ item ∈ list.eraseDups, 1 < list.count item := by
  rw [eq_comm, length_eraseDups_eq_iff, List.nodup_iff_count_le_one]
  constructor
  · rintro single ⟨item, -, twice⟩
    exact absurd (single item) (Nat.not_le.mpr twice)
  · intro none item
    by_contra more
    have twice : 1 < list.count item := Nat.not_le.mp more
    have listed : item ∈ list := List.count_pos_iff.mp (Nat.lt_of_succ_lt twice)
    exact none ⟨item, List.mem_eraseDups.mpr listed, twice⟩

end Names

theorem Finder.exists_of_mem_findAll {α : Type} {find : Finder α} {value : α} {text : Text}
    (member : value ∈ find.findAll text) :
    ∃ before start rest, find before start = some (value, rest) := by
  have general : ∀ (text : Text) (skip : Nat) (before : Option Char) (part : Text),
      Piece.found value part ∈ find.scanFrom skip before text →
        ∃ before start rest, find before start = some (value, rest) := by
    intro text
    induction text with
    | nil => intro skip before part listed; simp [scanFrom] at listed
    | cons c rest induction =>
        intro skip before part listed
        cases skip with
        | succ skip => exact induction skip (some c) part listed
        | zero =>
            rw [scanFrom] at listed
            split at listed
            next found after here =>
              rcases List.mem_cons.mp listed with first | later
              · cases first
                exact ⟨before, c :: rest, after, here⟩
              · exact induction _ (some c) part later
            next =>
              rcases List.mem_cons.mp listed with first | later
              · cases first
              · exact induction 0 (some c) part later
  obtain ⟨piece, listed, found⟩ := List.mem_filterMap.mp member
  cases piece with
  | plain c => cases found
  | found other part =>
      cases found
      exact general text 0 none part listed

end SqlFanout.Text

namespace SqlFanout.Sql

open Text

/-- A reference as it is written, with a dot behind its schema. -/
def TableReference.written (reference : TableReference) : Text :=
  match reference.schema with
  | some schema => schema ++ '.' :: reference.table
  | none => reference.table

theorem TableReference.read?_eq_some {text rest : Text} {reference : TableReference}
    (read : read? text = some (reference, rest)) :
    text = reference.written ++ rest ∧ ∀ c ∈ reference.table, isNameChar c = true := by
  rw [read?] at read
  split at read
  next => cases read
  next first behind taken =>
    obtain ⟨rfl, letters⟩ := takeName?_eq_some taken
    dsimp only at read
    have bare : (if isWordAt behind.head? then none else some (⟨none, first⟩, behind)) =
        some (reference, rest) →
          first ++ behind = reference.written ++ rest ∧
            ∀ c ∈ reference.table, isNameChar c = true := by
      intro plain
      split at plain
      next => cases plain
      next =>
        cases plain
        exact ⟨rfl, letters⟩
    split at read
    next _ more =>
      split at read
      next second after qualified =>
        obtain ⟨rfl, others⟩ := takeName?_eq_some qualified
        split at read
        next => exact bare read
        next =>
          cases read
          exact ⟨by simp [written], others⟩
      next => exact bare read
    next => exact bare read

theorem isNameChar_of_mem_table {reference : TableReference} {sql : Text}
    (member : reference ∈ TableReference.finder.findAll sql) :
    ∀ c ∈ reference.table, isNameChar c = true := by
  obtain ⟨before, start, rest, found⟩ := Finder.exists_of_mem_findAll member
  rw [TableReference.finder] at found
  split at found
  next => cases found
  next =>
    split at found
    next => cases found
    next => exact (TableReference.read?_eq_some found).2

theorem not_mem_of_isNameChar {mark : Char} {name : Text}
    (letters : ∀ c ∈ name, isNameChar c = true) (noWord : isWord mark = false) :
    mark ∉ name := by
  intro member
  simp [isWord_of_isNameChar (letters mark member)] at noWord

theorem dot_mem_lower {text : Text} (member : '.' ∈ text) : '.' ∈ lower text := by
  have general : ∀ before, '.' ∈ lowerFrom before text := by
    induction text with
    | nil => cases member
    | cons c rest induction =>
        intro before
        rw [lowerFrom]
        rcases List.mem_cons.mp member with rfl | later
        · exact List.mem_append_left _ (List.mem_singleton.mpr rfl)
        · exact List.mem_append_right _ (induction later (c :: before))
  exact general []

/-- A name behind a schema is no keyword, however it is looked up. -/
theorem isReserved_eq (reference : TableReference) :
    reference.isReserved = reservedWords.contains (lower reference.written) := by
  obtain ⟨schema, table⟩ := reference
  cases schema with
  | none => simp [TableReference.isReserved, TableReference.written]
  | some schema =>
      have undotted : ∀ word ∈ reservedWords, '.' ∉ word := by decide
      have dotted : '.' ∈ lower (schema ++ '.' :: table) := dot_mem_lower (by simp)
      have free : lower (schema ++ '.' :: table) ∉ reservedWords :=
        fun listed => undotted _ listed dotted
      simp [TableReference.isReserved, TableReference.written, free]

/-- The references of a text as they are written, without those that are bare keywords. -/
def writtenReferences (sql : Text) : List Text :=
  ((TableReference.finder.findAll sql).map TableReference.written).filter fun name =>
    !reservedWords.contains (lower name)

/-- The names by which a text refers to tables, without schemas, one for each reference. -/
def citedTables (sql : Text) : List Text :=
  (writtenReferences sql).map (afterLast '.')

theorem map_table_all (sql : Text) :
    (TableReference.all sql).map (·.table) = citedTables sql := by
  have same : ((TableReference.finder.findAll sql).map TableReference.written).filter
        (fun name => !reservedWords.contains (lower name)) =
      (TableReference.all sql).map TableReference.written := by
    rw [List.filter_map, TableReference.all]
    congr 2
    funext reference
    rw [Function.comp_apply, isReserved_eq]
  rw [citedTables, writtenReferences, same, List.map_map]
  apply List.map_congr_left
  intro reference listed
  have letters := isNameChar_of_mem_table (List.mem_filter.mp listed).1
  have undotted : '.' ∉ reference.table := not_mem_of_isNameChar letters (by decide)
  rw [Function.comp_apply, TableReference.written]
  split
  · exact (afterLast_append _ undotted).symm
  · exact (afterLast_of_not_mem undotted).symm

theorem tableNames_eq_eraseDups (sql : Text) : tableNames sql = (citedTables sql).eraseDups := by
  rw [tableNames_eq, map_table_all]

theorem isNameChar_of_mem_tableNames {sql name : Text} (member : name ∈ tableNames sql) :
    ∀ c ∈ name, isNameChar c = true := by
  rw [tableNames_eq_eraseDups, List.mem_eraseDups, ← map_table_all] at member
  obtain ⟨reference, listed, rfl⟩ := List.mem_map.mp member
  exact isNameChar_of_mem_table (List.mem_filter.mp listed).1

theorem lineFeed_not_mem_ofNat (n : Nat) : '\n' ∉ ofNat n := by
  intro member
  have digit := isAsciiDigit_of_mem_ofNat member
  revert digit
  decide

/-- A report has a line for each of its facts, for no name breaks a line. -/
theorem TableStatistics.lines_report {statistics : TableStatistics}
    (unbroken : ∀ name ∈ statistics.names, '\n' ∉ name) :
    lines statistics.report =
      (["테이블명 추출 통계:",
        "• 전체 테이블명 수: " ++ ofNat statistics.total,
        "• 고유 테이블명 수: " ++ ofNat statistics.names.length,
        "• 테이블명 목록: " ++ join ", " statistics.names] : List Text) ++
      (if statistics.total = statistics.names.length then []
        else ["• 참고: 중복된 테이블명이 있습니다"] : List Text) := by
  have listed : '\n' ∉ join ", " statistics.names := by
    intro member
    rcases mem_join member with between | ⟨name, inNames, inName⟩
    · revert between
      decide
    · exact unbroken name inNames inName
  have labelled : ∀ label text : Text, '\n' ∉ label → '\n' ∉ text → '\n' ∉ label ++ text :=
    fun label text first second member => (List.mem_append.mp member).elim first second
  have nonempty : ∀ (first : Text) (others note : List Text), first :: others ++ note ≠ [] :=
    fun _ _ _ => List.cons_ne_nil _ _
  rw [TableStatistics.report, lines_unlines_of_ne_nil (nonempty _ _ _)]
  · simp only [bne_iff_ne, ne_eq, ite_not]
  · intro part member
    rcases List.mem_append.mp member with fact | note
    · rcases List.mem_cons.mp fact with rfl | fact
      · decide
      rcases List.mem_cons.mp fact with rfl | fact
      · exact labelled _ _ (by decide) (lineFeed_not_mem_ofNat _)
      rcases List.mem_cons.mp fact with rfl | fact
      · exact labelled _ _ (by decide) (lineFeed_not_mem_ofNat _)
      · rw [List.mem_singleton.mp fact]
        exact labelled _ _ (by decide) listed
    · split at note
      · rw [List.mem_singleton.mp note]
        decide
      · cases note

/-- Tables are listed by names without a dot and without repetition, in the order of
their first references.  The statistics have the same names; they count the references
and these names, and note a repetition if and only if there is one. -/
theorem statistics_of_references (sql : Text) :
    (∀ name ∈ tableNames sql, '.' ∉ name) ∧
    (tableNames sql).Nodup ∧
    (∀ name, name ∈ tableNames sql ↔ name ∈ citedTables sql) ∧
    ((tableNames sql).Pairwise fun first second =>
      (citedTables sql).idxOf first < (citedTables sql).idxOf second) ∧
    (TableStatistics.ofSql sql).names = tableNames sql ∧
    (TableStatistics.ofSql sql).total = (citedTables sql).length ∧
    lines (TableStatistics.ofSql sql).report =
      (["테이블명 추출 통계:",
        "• 전체 테이블명 수: " ++ ofNat (citedTables sql).length,
        "• 고유 테이블명 수: " ++ ofNat (tableNames sql).length,
        "• 테이블명 목록: " ++ join ", " (tableNames sql)] : List Text) ++
      (if ∃ name ∈ tableNames sql, 1 < (citedTables sql).count name then
        ["• 참고: 중복된 테이블명이 있습니다"] else [] : List Text) := by
  have names : (TableStatistics.ofSql sql).names = tableNames sql := by
    rw [TableStatistics.ofSql, tableNames_eq]
  have total : (TableStatistics.ofSql sql).total = (citedTables sql).length := by
    rw [TableStatistics.ofSql, map_table_all]
  have repeated : (citedTables sql).length = (tableNames sql).length ↔
      ¬ ∃ name ∈ tableNames sql, 1 < (citedTables sql).count name := by
    rw [tableNames_eq_eraseDups]
    exact length_eq_length_eraseDups_iff
  have unbroken : ∀ name ∈ (TableStatistics.ofSql sql).names, '\n' ∉ name := by
    intro name member
    rw [names] at member
    exact not_mem_of_isNameChar (isNameChar_of_mem_tableNames member) (by decide)
  refine ⟨?_, ?_, ?_, ?_, names, total, ?_⟩
  · intro name member
    exact not_mem_of_isNameChar (isNameChar_of_mem_tableNames member) (by decide)
  · rw [tableNames_eq_eraseDups]
    exact nodup_eraseDups _
  · intro name
    rw [tableNames_eq_eraseDups, List.mem_eraseDups]
  · rw [tableNames_eq_eraseDups]
    exact pairwise_idxOf_eraseDups _
  · rw [TableStatistics.lines_report unbroken, names, total]
    congr 1
    by_cases twice : ∃ name ∈ tableNames sql, 1 < (citedTables sql).count name
    · rw [if_pos twice, if_neg fun same => repeated.mp same twice]
    · rw [if_neg twice, if_pos (repeated.mpr twice)]

/-- A schema makes no other name, and a keyword behind a clause makes none. -/
example :
    citedTables "FROM shop.orders JOIN users JOIN orders JOIN set" =
        (["orders", "users", "orders"] : List Text) ∧
      TableStatistics.ofSql "FROM shop.orders JOIN users JOIN orders JOIN set" =
        ⟨3, ["orders", "users"]⟩ := by
  decide

end SqlFanout.Sql
