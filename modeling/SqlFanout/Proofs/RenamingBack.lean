import SqlFanout.Proofs.PlainNames

/-!
# Renaming again and renaming back

A renamed table is not found under its old name any more, and under its new name
it is found exactly where it was renamed.  So renaming a table twice is renaming
it once (`renameTable_again`), and renaming the new name on is renaming the table
itself, if the text did not refer to the new name before
(`renameTable_renameTable`).  Only the new name has to start no clause.  The table
may be named like a keyword: a clause that its name starts is used up by the scan
that renames it, and gone afterwards.
-/

namespace SqlFanout.Sql

open Text

section Scanned

variable {table replacement : Text}

private theorem renamed_or_left (table : Text) (place : Place) (token : Token)
    (next : Option Char) :
    (∃ name, token = .word name ∧ target? place (.word name) next = some name ∧
        folded name = folded table) ∨
      ∀ name ∈ target? place token next, folded name ≠ folded table := by
  by_cases hit : ∃ name ∈ target? place token next, folded name = folded table
  · obtain ⟨name, target, same⟩ := hit
    have word := eq_word_of_target? target
    exact .inl ⟨name, word, word ▸ target, same⟩
  · exact .inr (by simpa using hit)

private theorem head_renameScanned (place : Place) (list : List Token) :
    leadingMark (renameScanned table replacement place list) = leadingMark list ∧
      opensWithWord (renameScanned table replacement place list) = opensWithWord list := by
  cases list with
  | nil => exact ⟨rfl, rfl⟩
  | cons token others =>
      rcases renamed_or_left table place token (leadingMark others) with
        ⟨name, rfl, target, same⟩ | left
      · rw [renameScanned_of_target? replacement target same]
        exact ⟨rfl, rfl⟩
      · rw [renameScanned_of_other replacement left]
        cases token <;> exact ⟨rfl, rfl⟩

theorem leadingMark_renameScanned (place : Place) (list : List Token) :
    leadingMark (renameScanned table replacement place list) = leadingMark list :=
  (head_renameScanned place list).1

theorem proper_renameScanned (nonempty : replacement ≠ [])
    (letters : ∀ c ∈ replacement, isWord c = true) (place : Place) {list : List Token}
    (proper : Proper list) : Proper (renameScanned table replacement place list) := by
  induction proper generalizing place with
  | nil => exact .nil
  | mark noWord proper induction =>
      rw [renameScanned_of_other replacement (by simp)]
      exact .mark noWord (induction _)
  | @word word others wordNonempty isWord separate proper induction =>
      have apart : ∀ place,
          opensWithWord (renameScanned table replacement place others) = false := by
        intro place
        rw [(head_renameScanned place others).2]
        exact separate
      rcases renamed_or_left table place (.word word) (leadingMark others) with
        ⟨name, equal, target, same⟩ | left
      · rw [equal, renameScanned_of_target? replacement target same]
        exact .word nonempty letters (apart _) (induction _)
      · rw [renameScanned_of_other replacement left]
        exact .word wordNonempty isWord (apart _) (induction _)

/-- A table that has been renamed is found no more. -/
theorem renameScanned_again (idle : startsClause replacement = false)
    (apart : folded replacement ≠ folded table) (other : Text) (place : Place)
    (list : List Token) :
    renameScanned table other place (renameScanned table replacement place list) =
      renameScanned table replacement place list := by
  induction list generalizing place with
  | nil => rfl
  | cons token others induction =>
      rcases renamed_or_left table place token (leadingMark others) with
        ⟨name, rfl, target, same⟩ | left
      · have changed := target?_word target replacement
        have missed : ∀ name ∈ target? place (.word replacement) (leadingMark others),
            folded name ≠ folded table := by
          simpa [changed] using apart
        rw [renameScanned_of_target? replacement target same, renameScanned_of_other other,
          leadingMark_renameScanned, after_of_target? changed idle, induction]
        rwa [leadingMark_renameScanned]
      · rw [renameScanned_of_other replacement left, renameScanned_of_other other,
          leadingMark_renameScanned, induction]
        rwa [leadingMark_renameScanned]

private theorem after_elsewhere (place : Place) (token : Token) (next : Option Char) :
    after .elsewhere token next = after place token next ∨
      after .elsewhere token next = .elsewhere := by
  rw [after, after]
  cases started? token next with
  | some started => exact .inl rfl
  | none => exact .inr rfl

/-- A new name that was not referred to is found exactly where it was put in.  The
scan that puts it in may have lost the place at which the machine is that reads
all references, for it uses up what it finds. -/
theorem renameScanned_renameScanned (other : Text) {place full : Place}
    (lost : place = full ∨ place = .elsewhere) (list : List Token)
    (absent : ∀ name ∈ targets full list, folded name ≠ folded replacement) :
    renameScanned replacement other place (renameScanned table replacement place list) =
      renameScanned table other place list := by
  induction list generalizing place full with
  | nil => rfl
  | cons token others induction =>
      have later : ∀ name ∈ targets (after full token (leadingMark others)) others,
          folded name ≠ folded replacement :=
        fun name member => absent name (List.mem_append_right _ member)
      rcases renamed_or_left table place token (leadingMark others) with
        ⟨name, rfl, target, same⟩ | left
      · have changed := target?_word target replacement
        rw [renameScanned_of_target? replacement target same,
          renameScanned_of_target? other target same,
          renameScanned_of_target? other (by rw [leadingMark_renameScanned]; exact changed) rfl,
          induction (.inr rfl) later]
      · have missed : ∀ name ∈ target? place token (leadingMark others),
            folded name ≠ folded replacement := by
          intro name target
          rcases lost with rfl | rfl
          · exact absent name (List.mem_append_left _ (by simpa using target))
          · cases target
        have stillLost : after place token (leadingMark others) =
              after full token (leadingMark others) ∨
            after place token (leadingMark others) = .elsewhere := by
          rcases lost with rfl | rfl
          · exact .inl rfl
          · exact after_elsewhere full token (leadingMark others)
        rw [renameScanned_of_other replacement left, renameScanned_of_other other left,
          renameScanned_of_other other, leadingMark_renameScanned, induction stillLost later]
        rwa [leadingMark_renameScanned]

theorem folded_spell_renameScanned_self (place : Place) (list : List Token) :
    folded (spell (renameScanned table table place list)) = folded (spell list) := by
  induction list generalizing place with
  | nil => rfl
  | cons token others induction =>
      rcases renamed_or_left table place token (leadingMark others) with
        ⟨name, rfl, target, same⟩ | left
      · rw [renameScanned_of_target? table target same, spell_cons, spell_cons, folded_append,
          folded_append, induction, Token.spelling, Token.spelling, same]
      · rw [renameScanned_of_other table left, spell_cons, spell_cons, folded_append,
          folded_append, induction]

end Scanned

section Table

variable {table replacement : Text}

theorem tokens_renameTable (wordlike : Wordlike table) (nonempty : replacement ≠ [])
    (letters : ∀ c ∈ replacement, isWord c = true) (sql : Text) :
    tokens (renameTable table replacement sql) =
      renameScanned table replacement .elsewhere (tokens sql) := by
  rw [renameTable_eq_scanned wordlike,
    tokens_spell (proper_renameScanned nonempty letters .elsewhere (proper_tokens sql))]

theorem renameTable_again (wordlike : Wordlike table) (newWordlike : Wordlike replacement)
    (idle : startsClause replacement = false)
    (apart : folded replacement ≠ folded table) (other sql : Text) :
    renameTable table other (renameTable table replacement sql) =
      renameTable table replacement sql := by
  rw [renameTable_eq_scanned wordlike other,
    tokens_renameTable wordlike newWordlike.nonempty newWordlike.isWord,
    renameScanned_again idle apart, ← renameTable_eq_scanned wordlike]

theorem not_referred_of_findAll (wordlike : Wordlike table)
    (idle : startsClause table = false) {sql : Text}
    (absent : (referenceFinder table).findAll sql = []) :
    ∀ name ∈ referredNames sql, folded name ≠ folded table := by
  have letters : ∀ c ∈ table ++ ['0'], isWord c = true := by
    intro c member
    rcases List.mem_append.mp member with inTable | digit
    · exact wordlike.isWord c inTable
    · rw [List.mem_singleton.mp digit]
      decide
  have shows : ShowsDigit (table ++ ['0']) := ⟨'0', by simp, by decide⟩
  have tame : Tame (retarget table (table ++ ['0'])) :=
    .retarget idle (by simp) letters (startsClause_of_showsDigit shows)
  have proper := proper_rename tame .elsewhere (proper_tokens sql)
  have unchanged : renameTable table (table ++ ['0']) sql = sql :=
    Finder.substituteFrom_of_findAllFrom _ absent
  rw [renameTable_eq wordlike idle] at unchanged
  have fixed : rename (retarget table (table ++ ['0'])) .elsewhere (tokens sql) =
      rename (fun name => name) .elsewhere (tokens sql) := by
    rw [rename_self, ← tokens_spell proper, unchanged]
  intro name referred same
  have kept := (rename_eq_iff _ _ _ _).mp fixed name referred
  rw [retarget, if_pos same] at kept
  have size := length_eq_of_folded same
  rw [← kept, List.length_append] at size
  simp at size

theorem renameTable_renameTable (wordlike : Wordlike table)
    (newWordlike : Wordlike replacement) (idle : startsClause replacement = false)
    {sql : Text} (absent : (referenceFinder replacement).findAll sql = []) (other : Text) :
    renameTable replacement other (renameTable table replacement sql) =
      renameTable table other sql := by
  rw [renameTable_eq_scanned newWordlike,
    tokens_renameTable wordlike newWordlike.nonempty newWordlike.isWord,
    renameScanned_renameScanned other (.inl rfl) (tokens sql)
      (not_referred_of_findAll newWordlike idle absent),
    ← renameTable_eq_scanned wordlike]

theorem folded_renameTable_self (wordlike : Wordlike table) (sql : Text) :
    folded (renameTable table table sql) = folded sql := by
  rw [renameTable_eq_scanned wordlike, folded_spell_renameScanned_self, spell_tokens]

end Table

section Suffix

variable {table suffix : Text}

theorem folded_append_ne (shows : ShowsDigit suffix) :
    folded (table ++ suffix) ≠ folded table := by
  intro same
  obtain ⟨d, member, -⟩ := shows
  have positive := List.length_pos_of_mem member
  have size := length_eq_of_folded same
  rw [List.length_append] at size
  omega

/-- Renaming a table with a suffix can be undone in every text that does not refer
to the table with the suffix already.  What remains of it are the references in the
spelling of the table. -/
theorem renameTable_back (name : AsciiName table) (word : IsAsciiWord suffix)
    (shows : ShowsDigit suffix) {sql : Text}
    (absent : (referenceFinder (table ++ suffix)).findAll sql = []) :
    renameTable (table ++ suffix) table (renameTable table (table ++ suffix) sql) =
        renameTable table table sql ∧
      folded (renameTable table table sql) = folded sql := by
  have idle := startsClause_of_showsDigit (shows.append_left table)
  constructor
  · exact renameTable_renameTable name.wordlike (name.append word).wordlike idle absent table
  · exact folded_renameTable_self name.wordlike sql

/-- A table that is named like a keyword, with a schema of that name beside it, and
places behind a reference that the name of the table seems to lead on to. -/
theorem renameTable_back_keyword :
    AsciiName "from" ∧ IsAsciiWord "_0" ∧ ShowsDigit "_0" ∧
    (referenceFinder "from_0").findAll "JOIN shop.FROM from x, from JOIN from.From from" = [] ∧
    renameTable "from" "from_0" "JOIN shop.FROM from x, from JOIN from.From from" =
      "JOIN shop.from_0 from x, from JOIN from.from_0 from" ∧
    renameTable "from_0" "from" "JOIN shop.from_0 from x, from JOIN from.from_0 from" =
      "JOIN shop.from from x, from JOIN from.from from" := by
  have name : AsciiName "from" := ⟨by decide, List.all_eq_true.mp (by decide)⟩
  have word : IsAsciiWord "_0" := isAsciiWord_of_all (by decide)
  have shows : ShowsDigit "_0" := ⟨'0', by decide, by decide⟩
  have absent : (referenceFinder "from_0").findAll
      "JOIN shop.FROM from x, from JOIN from.From from" = [] := by
    decide
  have renamed : renameTable "from" "from_0" "JOIN shop.FROM from x, from JOIN from.From from" =
      "JOIN shop.from_0 from x, from JOIN from.from_0 from" := by
    decide
  have respelled : renameTable "from" "from" "JOIN shop.FROM from x, from JOIN from.From from" =
      "JOIN shop.from from x, from JOIN from.from from" := by
    decide
  refine ⟨name, word, shows, absent, renamed, ?_⟩
  rw [← renamed, ← respelled]
  exact (renameTable_back name word shows absent).1

private theorem renameTables_copies {sql : Text}
    (again : renameTable table (table ++ suffix) (renameTable table (table ++ suffix) sql) =
      renameTable table (table ++ suffix) sql)
    {others : List Text} (copies : ∀ other ∈ others, other = table) :
    renameTables (table :: others) suffix sql = renameTables [table] suffix sql := by
  induction others with
  | nil => rfl
  | cons other others induction =>
      obtain ⟨rfl, copies⟩ := List.forall_mem_cons.mp copies
      rw [← induction copies, renameTables, renameTables, List.foldl_cons, List.foldl_cons,
        List.foldl_cons, again]

/-- Renaming a table with a suffix twice is renaming it once, and so is renaming it
once for each time that it is listed. -/
theorem renameTable_suffix_idempotent (name : AsciiName table) (word : IsAsciiWord suffix)
    (shows : ShowsDigit suffix) (sql : Text) :
    renameTable table (table ++ suffix) (renameTable table (table ++ suffix) sql) =
        renameTable table (table ++ suffix) sql ∧
      ∀ tables, tables ≠ [] → (∀ other ∈ tables, other = table) →
        renameTables tables suffix sql = renameTables [table] suffix sql := by
  have idle := startsClause_of_showsDigit (shows.append_left table)
  have again := renameTable_again name.wordlike (name.append word).wordlike idle
    (folded_append_ne shows) (table ++ suffix) sql
  refine ⟨again, ?_⟩
  intro tables nonempty copies
  obtain ⟨first, others, rfl⟩ := List.exists_cons_of_ne_nil nonempty
  obtain ⟨rfl, copies⟩ := List.forall_mem_cons.mp copies
  exact renameTables_copies again copies

/-- The second keyword of the text is renamed and starts no clause any more, and the
third one, which it led on to, stays. -/
theorem renameTable_suffix_idempotent_keyword :
    AsciiName "from" ∧ IsAsciiWord "_0" ∧ ShowsDigit "_0" ∧
    renameTable "from" "from_0" "FROM from from from.x JOIN From" =
      "FROM from_0 from from.x JOIN from_0" ∧
    renameTable "from" "from_0" "FROM from_0 from from.x JOIN from_0" =
      "FROM from_0 from from.x JOIN from_0" ∧
    renameTables ["from", "from", "from"] "_0" "FROM from from from.x JOIN From" =
      "FROM from_0 from from.x JOIN from_0" := by
  have name : AsciiName "from" := ⟨by decide, List.all_eq_true.mp (by decide)⟩
  have word : IsAsciiWord "_0" := isAsciiWord_of_all (by decide)
  have shows : ShowsDigit "_0" := ⟨'0', by decide, by decide⟩
  have renamed : renameTable "from" "from_0" "FROM from from from.x JOIN From" =
      "FROM from_0 from from.x JOIN from_0" := by
    decide
  obtain ⟨again, copies⟩ :=
    renameTable_suffix_idempotent name word shows "FROM from from from.x JOIN From"
  refine ⟨name, word, shows, renamed, ?_, ?_⟩
  · rw [← renamed]
    exact again
  · rw [← renamed]
    exact copies ["from", "from", "from"] (by decide) (by decide)

end Suffix

end SqlFanout.Sql
