import Mathlib.Data.List.Nodup
import Mathlib.Data.List.Perm.Subperm
import SqlFanout.Proofs.Suffixes
import SqlFanout.Sql.SelectField

/-!
# Labels

Fields are read one after another, and each takes a label that is not in use: the
one that is wanted, or that with the first number that is free
(`isFirstFree_uniqueAlias`).  So the labels of a run are never equal, whatever was
in use before and whenever the clauses are read (`labels_in_turn`).
-/

namespace SqlFanout.Sql

open Text

/-- The label that is chosen for a base: the base itself if it is free, and else the
base with the least number from one on that makes it free. -/
def IsFirstFree (base : Text) (used : List Text) (label : Text) : Prop :=
  (base ∉ used ∧ label = base) ∨
    (base ∈ used ∧ ∃ number, 1 ≤ number ∧ label = numberedAlias base number ∧ label ∉ used ∧
      ∀ smaller, 1 ≤ smaller → smaller < number → numberedAlias base smaller ∈ used)

theorem IsFirstFree.not_mem {base label : Text} {used : List Text}
    (first : IsFirstFree base used label) : label ∉ used := by
  rcases first with ⟨free, rfl⟩ | ⟨-, number, -, -, free, -⟩
  · exact free
  · exact free

theorem numberedAlias_injective (base : Text) : Function.Injective (numberedAlias base) := by
  intro left right same
  simp only [numberedAlias, List.append_assoc, List.append_cancel_left_eq] at same
  exact ofNat_injective same

/-- Among more numbers than there are labels in use, one makes a free label. -/
theorem exists_free_number (base : Text) (used : List Text) :
    ∃ number < used.length + 1, numberedAlias base (number + 1) ∉ used := by
  by_contra none
  simp only [not_exists, not_and, not_not] at none
  have taken : (List.range (used.length + 1)).map (fun number => numberedAlias base (number + 1)) ⊆
      used := by
    intro label member
    obtain ⟨number, listed, rfl⟩ := List.mem_map.mp member
    exact none number (List.mem_range.mp listed)
  have distinct : ((List.range (used.length + 1)).map
      (fun number => numberedAlias base (number + 1))).Nodup := by
    apply List.Nodup.map ((numberedAlias_injective base).comp Nat.succ_injective)
    exact List.nodup_range
  have size := (distinct.subperm taken).length_le
  rw [List.length_map, List.length_range] at size
  omega

theorem uniqueAlias_of_not_mem {base : Text} {used : List Text} (free : base ∉ used) :
    uniqueAlias base used = base := by
  rw [uniqueAlias, if_neg (by simpa using free)]

theorem isFirstFree_uniqueAlias (base : Text) (used : List Text) :
    IsFirstFree base used (uniqueAlias base used) := by
  by_cases taken : base ∈ used
  · refine .inr ⟨taken, ?_⟩
    rw [uniqueAlias, if_pos (by simpa using taken)]
    simp only [List.find?_map]
    cases found : (List.range (used.length + 1)).find?
        ((fun number => !used.contains (numberedAlias base number)) ∘ (· + 1)) with
    | none =>
        obtain ⟨number, bound, free⟩ := exists_free_number base used
        have absent := List.find?_range_eq_none.mp found number bound
        simp [free] at absent
    | some number =>
        obtain ⟨free, -, least⟩ := List.find?_range_eq_some.mp found
        refine ⟨number + 1, Nat.le_add_left 1 number, rfl, by simpa using free, ?_⟩
        intro smaller positive less
        have before := least (smaller - 1) (by omega)
        simpa [Nat.sub_add_cancel positive] using before
  · exact .inl ⟨taken, uniqueAlias_of_not_mem taken⟩

/-- Reads clauses one after another, each at its own time, and keeps the labels that
are in use. -/
def readInTurn (used : List Text) : List (Nat × Text) → List SelectField × List Text
  | [] => ([], used)
  | (millis, clause) :: requests =>
      let (field, extended) := readField millis used clause
      let (fields, final) := readInTurn extended requests
      (field :: fields, final)

theorem readInTurn_cons (used : List Text) (millis : Nat) (clause : Text)
    (requests : List (Nat × Text)) :
    readInTurn used ((millis, clause) :: requests) =
      ((readField millis used clause).1 ::
          (readInTurn (readField millis used clause).2 requests).1,
        (readInTurn (readField millis used clause).2 requests).2) := rfl

theorem readInTurn_append (used : List Text) (earlier later : List (Nat × Text)) :
    readInTurn used (earlier ++ later) =
      ((readInTurn used earlier).1 ++ (readInTurn (readInTurn used earlier).2 later).1,
        (readInTurn (readInTurn used earlier).2 later).2) := by
  induction earlier generalizing used with
  | nil => rfl
  | cons request earlier induction =>
      rw [List.cons_append, readInTurn_cons, induction, readInTurn_cons]
      rfl

theorem readFields_eq (clock : Clock) (used clauses : List Text) :
    readFields clock used clauses =
      (readInTurn used (clauses.mapIdx fun turn clause => (clock turn, clause))).1 := by
  induction clauses generalizing clock used with
  | nil => rfl
  | cons clause clauses induction =>
      rw [List.mapIdx_cons, readInTurn_cons]
      exact congrArg (_ :: ·) (induction clock.later _)

theorem length_readInTurn (used : List Text) (requests : List (Nat × Text)) :
    (readInTurn used requests).1.length = requests.length := by
  induction requests generalizing used with
  | nil => rfl
  | cons request requests induction =>
      rw [readInTurn_cons, List.length_cons, List.length_cons, induction]

theorem labels_readInTurn (used : List Text) (requests : List (Nat × Text)) :
    (readInTurn used requests).2 = used ++ (readInTurn used requests).1.map (·.label) := by
  induction requests generalizing used with
  | nil => exact (List.append_nil used).symm
  | cons request requests induction =>
      rw [readInTurn_cons]
      simp only [induction, List.map_cons, readField, List.append_assoc, List.singleton_append]

theorem nodup_readInTurn (used : List Text) (requests : List (Nat × Text)) :
    ((readInTurn used requests).1.map (·.label)).Nodup ∧
      ∀ field ∈ (readInTurn used requests).1, field.label ∉ used := by
  induction requests generalizing used with
  | nil => simp [readInTurn]
  | cons request requests induction =>
      obtain ⟨millis, clause⟩ := request
      have free := (isFirstFree_uniqueAlias (splitAlias millis clause).label used).not_mem
      obtain ⟨distinct, unused⟩ :=
        induction (used ++ [uniqueAlias (splitAlias millis clause).label used])
      simp only [readInTurn_cons, readField, List.map_cons, List.nodup_cons,
        List.forall_mem_cons]
      refine ⟨⟨?_, distinct⟩, free, ?_⟩
      · intro member
        obtain ⟨field, listed, same⟩ := List.mem_map.mp member
        exact unused field listed (by simp [same])
      · intro field listed inside
        exact unused field listed (List.mem_append_left _ inside)

theorem exists_readInTurn (used : List Text) (earlier : List (Nat × Text)) (millis : Nat)
    (clause : Text) (later : List (Nat × Text)) :
    ∃ before field behind,
      (readInTurn used (earlier ++ (millis, clause) :: later)).1 = before ++ field :: behind ∧
      before.length = earlier.length ∧
      field = { splitAlias millis clause with label := field.label } ∧
      IsFirstFree (splitAlias millis clause).label (used ++ before.map (·.label))
        field.label := by
  have choice := isFirstFree_uniqueAlias (splitAlias millis clause).label
    (readInTurn used earlier).2
  rw [readInTurn_append, readInTurn_cons]
  refine ⟨_, _, _, rfl, length_readInTurn used earlier, rfl, ?_⟩
  rw [← labels_readInTurn]
  exact choice

theorem nodup_readFields (clock : Clock) (clauses : List Text) :
    ((readFields clock [] clauses).map (·.label)).Nodup := by
  rw [readFields_eq]
  exact (nodup_readInTurn [] _).1

theorem selectFields_eq_ok_iff {clock : Clock} {sql : Text} {fields : List SelectField} :
    selectFields clock sql = .ok fields ↔
      ∃ clause, SelectClause.locate? (trim sql) = some clause ∧
        splitFields (trim clause.fields) ≠ [] ∧
        (splitFields (trim clause.fields)).any isWildcard = false ∧
        readFields clock [] (splitFields (trim clause.fields)) = fields := by
  rw [selectFields]
  cases located : SelectClause.locate? (trim sql) with
  | none => simp
  | some clause =>
      simp only [Option.some.injEq, exists_eq_left']
      cases clauses : splitFields (trim clause.fields) with
      | nil => simp
      | cons first others =>
          cases wild : (first :: others).any isWildcard with
          | true => simp [wild]
          | false => simp [wild]

/-- Clauses that are read in turn, at any times, take labels that are distinct and
were not in use; these labels and no others are in use afterwards.  Each is the first
free one for what its clause wants.  The fields of a statement are read in turn from the
pieces of its list. -/
theorem labels_in_turn (used : List Text) (requests : List (Nat × Text)) :
    ((readInTurn used requests).1.map (·.label)).Nodup ∧
    (∀ field ∈ (readInTurn used requests).1, field.label ∉ used) ∧
    (readInTurn used requests).2 = used ++ (readInTurn used requests).1.map (·.label) ∧
    (readInTurn used requests).1.length = requests.length ∧
    (∀ earlier millis clause later, requests = earlier ++ (millis, clause) :: later →
      ∃ before field behind,
        (readInTurn used requests).1 = before ++ field :: behind ∧
        before.length = earlier.length ∧
        field = { splitAlias millis clause with label := field.label } ∧
        IsFirstFree (splitAlias millis clause).label (used ++ before.map (·.label))
          field.label) ∧
    (∀ clock sql fields, selectFields clock sql = .ok fields →
      (fields.map (·.label)).Nodup ∧
      ∃ clause, SelectClause.locate? (trim sql) = some clause ∧
        fields.length = (splitFields (trim clause.fields)).length ∧
        fields =
          (readInTurn [] ((splitFields (trim clause.fields)).mapIdx fun turn piece =>
            (clock turn, piece))).1) := by
  obtain ⟨distinct, unused⟩ := nodup_readInTurn used requests
  refine ⟨distinct, unused, labels_readInTurn used requests, length_readInTurn used requests,
    ?_, ?_⟩
  · rintro earlier millis clause later rfl
    exact exists_readInTurn used earlier millis clause later
  · intro clock sql fields read
    obtain ⟨clause, located, -, -, rfl⟩ := selectFields_eq_ok_iff.mp read
    refine ⟨nodup_readFields clock _, clause, located, ?_, readFields_eq clock [] _⟩
    rw [readFields_eq, length_readInTurn, List.length_mapIdx]

/-- A label that is spelled out, one that is derived, and one from the clock, each
taken before it is wanted again. -/
def collidingClauses : List (Nat × Text) :=
  [(0, "a AS sum_result_1"), (0, "SUM(b)"), (7, "f(x)"), (10007, "g(y)"), (8, "t.field_7")]

theorem labels_in_turn_colliding :
    (readInTurn [("sum_result" : Text)] collidingClauses).1.map (·.label) =
      ["sum_result_1", "sum_result_2", "field_7", "field_7_1", "field_7_2"] ∧
    collidingClauses =
      collidingClauses.take 1 ++ (0, ("SUM(b)" : Text)) :: collidingClauses.drop 2 ∧
    (∃ before field behind,
      (readInTurn [("sum_result" : Text)] collidingClauses).1 = before ++ field :: behind ∧
      before.length = 1 ∧ field = { splitAlias 0 "SUM(b)" with label := field.label } ∧
      IsFirstFree (splitAlias 0 "SUM(b)").label
        ([("sum_result" : Text)] ++ before.map (·.label)) field.label) ∧
    selectFields id "SELECT SUM(a), b AS sum_result,, SUM(c), f(x) FROM t" =
      .ok [⟨"SUM(a)", "sum_result", false⟩, ⟨"b", "sum_result_1", true⟩,
        ⟨"SUM(c)", "sum_result_2", false⟩, ⟨"f(x)", "field_3", false⟩] ∧
    ["sum_result".toList, "sum_result_1".toList, "sum_result_2".toList,
      "field_3".toList].Nodup := by
  have read : selectFields id "SELECT SUM(a), b AS sum_result,, SUM(c), f(x) FROM t" =
      .ok [⟨"SUM(a)", "sum_result", false⟩, ⟨"b", "sum_result_1", true⟩,
        ⟨"SUM(c)", "sum_result_2", false⟩, ⟨"f(x)", "field_3", false⟩] := by
    decide
  have split : collidingClauses =
      collidingClauses.take 1 ++ (0, ("SUM(b)" : Text)) :: collidingClauses.drop 2 := rfl
  obtain ⟨-, -, -, -, chosen, accepted⟩ := labels_in_turn ["sum_result"] collidingClauses
  exact ⟨by decide, split, chosen _ _ _ _ split, read, (accepted _ _ _ read).1⟩

end SqlFanout.Sql
