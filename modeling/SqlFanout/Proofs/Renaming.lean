import SqlFanout.Proofs.References

/-!
# Renaming at the places of references

A renaming is a change of names that is applied wherever a text refers to a
table.  Renaming one table by scanning is such a renaming (`renameTable_eq`),
and one after another they make up a single renaming (`renameTables_eq`), as
long as no name that is put in starts a table clause of its own.  If the table
itself is named like a keyword, the scan uses up the clause that its name would
start (`renameTable_eq_scanned`).
-/

namespace SqlFanout.Sql

open Text

/-- Changes the names of all references. -/
def rename (change : Text → Text) : Place → List Token → List Token
  | _, [] => []
  | place, token :: others =>
      let next := leadingMark others
      (match target? place token next with
        | some name => .word (change name)
        | none => token) :: rename change (after place token next) others

/-- The names of all references, in order. -/
def targets : Place → List Token → List Text
  | _, [] => []
  | place, token :: others =>
      let next := leadingMark others
      (target? place token next).toList ++ targets (after place token next) others

/-- The names by which a text refers to tables, in order. -/
def referredNames (sql : Text) : List Text :=
  targets .elsewhere (tokens sql)

theorem rename_of_target? (change : Text → Text) {place : Place} {token : Token}
    {others : List Token} {name : Text}
    (target : target? place token (leadingMark others) = some name) :
    rename change place (token :: others) =
      .word (change name) ::
        rename change (after place token (leadingMark others)) others := by
  rw [rename, target]

theorem rename_of_no_target (change : Text → Text) {place : Place} {token : Token}
    {others : List Token}
    (target : target? place token (leadingMark others) = none) :
    rename change place (token :: others) =
      token :: rename change (after place token (leadingMark others)) others := by
  rw [rename, target]

theorem rename_eq_iff (change other : Text → Text) (place : Place) (list : List Token) :
    rename change place list = rename other place list ↔
      ∀ name ∈ targets place list, change name = other name := by
  induction list generalizing place with
  | nil => simp [rename, targets]
  | cons token others induction =>
      rw [targets]
      cases target : target? place token (leadingMark others) with
      | none =>
          rw [rename_of_no_target change target, rename_of_no_target other target]
          simp [induction]
      | some name =>
          rw [rename_of_target? change target, rename_of_target? other target]
          simp [induction]

theorem rename_self (place : Place) (list : List Token) :
    rename (fun name => name) place list = list := by
  induction list generalizing place with
  | nil => rfl
  | cons token others induction =>
      cases target : target? place token (leadingMark others) with
      | none => rw [rename_of_no_target _ target, induction]
      | some name =>
          rw [rename_of_target? _ target, induction, ← eq_word_of_target? target]

def startsClause (letters : Text) : Bool :=
  tableClauses.any fun words => words.head?.any fun word => folded word == folded letters

theorem started?_of_startsClause {letters : Text} (idle : startsClause letters = false)
    (next : Option Char) : started? (.word letters) next = none := by
  refine List.findSome?_eq_none_iff.mpr fun words clause => ?_
  obtain ⟨word, others, rfl, -⟩ := keyword_cases clause
  have different : folded word ≠ folded letters := by
    simpa using List.any_eq_false.mp idle _ clause
  exact if_neg fun keyword => different keyword.1.symm

theorem startsClause_of_folded {left right : Text} (same : folded left = folded right) :
    startsClause left = startsClause right := by
  rw [startsClause, startsClause, same]

theorem started?_congr {left right : Text} (same : folded left = folded right)
    {next other : Option Char} (blank : next.any isBlank = other.any isBlank) :
    started? (.word left) next = started? (.word right) other := by
  have clauses : ∀ words ∈ tableClauses,
      resumed? (.expecting words) (.word left) next =
        resumed? (.expecting words) (.word right) other := by
    intro words clause
    obtain ⟨word, others, rfl, -⟩ := keyword_cases clause
    rw [resumed?, resumed?, same, blank]
  exact findSome?_congr_of_mem clauses

theorem after_of_target? {place : Place} {token : Token} {next : Option Char} {name : Text}
    (target : target? place token next = some name) (idle : startsClause name = false) :
    after place token next = .elsewhere := by
  rw [after, resumed?_of_target? target, eq_word_of_target? target,
    started?_of_startsClause idle]
  rfl

/-- The places behind some keywords of a table clause, or none of them. -/
def Place.Regular : Place → Prop
  | .expecting words => words ∈ tableClauses.map List.tail
  | _ => True

theorem regular_of_started? {token : Token} {next : Option Char} {place : Place}
    (start : started? token next = some place) : place.Regular := by
  cases token with
  | mark => cases start
  | word letters =>
      obtain ⟨words, clause, step⟩ := List.exists_of_findSome?_eq_some start
      obtain ⟨word, others, rfl, -⟩ := keyword_cases clause
      rw [resumed?] at step
      split at step
      · cases step
        exact List.mem_map.mpr ⟨word :: others, clause, rfl⟩
      · cases step

theorem Place.Regular.resumed? {place later : Place} {token : Token} {next : Option Char}
    (regular : place.Regular) (step : resumed? place token next = some later) :
    later.Regular := by
  have closed : ∀ words ∈ tableClauses.map List.tail,
      words.tail ∈ tableClauses.map List.tail := by
    decide
  cases resumes_of_resumed? step with
  | blank => exact regular
  | schema => trivial
  | keyword => exact closed _ regular
  | dot => trivial

/-- The only keyword inside a clause that starts a clause itself leads to the same
place either way. -/
theorem Place.Regular.after_eq {place later : Place} {token : Token} {next : Option Char}
    (regular : place.Regular) (step : Sql.resumed? place token next = some later) :
    after place token next = later := by
  suffices started : started? token next = none ∨ started? token next = some later by
    rcases started with none | some
    · rw [after, none, step]
      rfl
    · rw [after, some]
      rfl
  cases resumes_of_resumed? step with
  | blank => exact .inl rfl
  | dot => exact .inl rfl
  | schema dotted =>
      rw [dotted]
      refine .inl (List.findSome?_eq_none_iff.mpr fun words clause => ?_)
      obtain ⟨word, others, rfl, -⟩ := keyword_cases clause
      refine if_neg fun keyword => ?_
      exact absurd keyword.2 (by decide)
  | @keyword word letters words same apart =>
      have closed : ∀ words ∈ tableClauses.map List.tail, ∀ word ∈ words.head?,
          started? (.word word) (some ' ') ∈ [none, some (.expecting words.tail)] := by
        decide
      have blank : next.any isBlank = (some ' ').any isBlank := apart
      rw [started?_congr same blank]
      simpa using closed _ regular word rfl

/-- Puts a name in the place of the name of a table, however that is spelled. -/
def retarget (table replacement : Text) (name : Text) : Text :=
  if folded name = folded table then replacement else name

/-- Renames one table as a scan does.  The scan goes on behind a reference that it
has found, so that the name there starts no clause even if it is a keyword. -/
def renameScanned (table replacement : Text) : Place → List Token → List Token
  | _, [] => []
  | place, token :: others =>
      let next := leadingMark others
      if ∃ name ∈ target? place token next, folded name = folded table then
        .word replacement :: renameScanned table replacement .elsewhere others
      else token :: renameScanned table replacement (after place token next) others

section Table

variable {table : Text}

theorem renameScanned_of_target? (replacement : Text) {place : Place} {token : Token}
    {others : List Token} {name : Text}
    (target : target? place token (leadingMark others) = some name)
    (same : folded name = folded table) :
    renameScanned table replacement place (token :: others) =
      .word replacement :: renameScanned table replacement .elsewhere others :=
  if_pos ⟨name, target, same⟩

theorem renameScanned_of_other (replacement : Text) {place : Place} {token : Token}
    {others : List Token}
    (other : ∀ name ∈ target? place token (leadingMark others),
      folded name ≠ folded table) :
    renameScanned table replacement place (token :: others) =
      token :: renameScanned table replacement
        (after place token (leadingMark others)) others := by
  refine if_neg ?_
  rintro ⟨name, target, same⟩
  exact other name target same

/-- Where the name of the table starts no clause, the scan changes all references
to it. -/
theorem renameScanned_eq_rename (idle : startsClause table = false) (replacement : Text)
    (place : Place) (list : List Token) :
    renameScanned table replacement place list =
      rename (retarget table replacement) place list := by
  induction list generalizing place with
  | nil => rfl
  | cons token others induction =>
      cases target : target? place token (leadingMark others) with
      | none =>
          rw [renameScanned_of_other replacement (by simp [target]),
            rename_of_no_target _ target, induction]
      | some name =>
          by_cases same : folded name = folded table
          · have behind := after_of_target? target (startsClause_of_folded same ▸ idle)
            rw [renameScanned_of_target? replacement target same,
              rename_of_target? _ target, retarget, if_pos same, behind, induction]
          · rw [renameScanned_of_other replacement (by simpa [target] using same),
              rename_of_target? _ target, retarget, if_neg same,
              ← eq_word_of_target? target, induction]

theorem renameScanned_of_reading (replacement : Text) {place : Place} {list : List Token}
    {found : Reading} (regular : place.Regular) (read : reading place list = some found)
    (same : folded found.name = folded table) :
    renameScanned table replacement place list =
      found.lead ++ .word replacement ::
        renameScanned table replacement .elsewhere found.rest := by
  induction list generalizing place found with
  | nil => cases read
  | cons token others induction =>
      cases target : target? place token (leadingMark others) with
      | some name =>
          rw [reading_of_target? target] at read
          cases read
          exact renameScanned_of_target? replacement target same
      | none =>
          cases step : resumed? place token (leadingMark others) with
          | none =>
              rw [reading_of_stuck target step] at read
              cases read
          | some later =>
              rw [reading_of_resumed? step] at read
              obtain ⟨rest, restRead, rfl⟩ := Option.map_eq_some_iff.mp read
              rw [renameScanned_of_other replacement (by simp [target]),
                regular.after_eq step, induction (regular.resumed? step) restRead same]
              rfl

/-- The clause being read does not lead on to the table. -/
def Quiet (table : Text) (place : Place) (list : List Token) : Prop :=
  ∀ found, reading place list = some found → folded found.name ≠ folded table

theorem quiet_elsewhere (list : List Token) : Quiet table .elsewhere list := by
  intro found read
  rw [reading_elsewhere] at read
  cases read

theorem Quiet.resumed? {place later : Place} {token : Token} {others : List Token}
    (quiet : Quiet table place (token :: others))
    (step : Sql.resumed? place token (leadingMark others) = some later) :
    Quiet table later others := by
  intro found read
  exact quiet { found with lead := token :: found.lead }
    (by rw [reading_of_resumed? step, read]; rfl)

theorem Quiet.after {place : Place} {token : Token} {others : List Token}
    (quiet : Quiet table place (token :: others))
    (unstarted : ∀ started, started? token (leadingMark others) = some started →
      Quiet table started others) :
    Quiet table (Sql.after place token (leadingMark others)) others := by
  rw [Sql.after]
  cases start : started? token (leadingMark others) with
  | some started => exact unstarted started start
  | none =>
      cases step : Sql.resumed? place token (leadingMark others) with
      | some later => exact quiet.resumed? step
      | none => exact quiet_elsewhere others

/-- Where nothing leads on to the table, a token is left as it is. -/
theorem Quiet.renameScanned_cons {replacement : Text} {place : Place} {token : Token}
    {others : List Token} (quiet : Quiet table place (token :: others)) :
    renameScanned table replacement place (token :: others) =
      token :: renameScanned table replacement
        (Sql.after place token (leadingMark others)) others := by
  apply renameScanned_of_other
  intro name target
  exact quiet _ (reading_of_target? target)

theorem substituteFrom_reference (replacement : Text) {letters lead name rest : Text}
    (nonempty : letters ≠ []) {before : Option Char}
    (found : referenceFinder table before (letters ++ (lead ++ (name ++ rest))) =
      some (letters ++ lead, rest)) :
    (referenceFinder table).substituteFrom (fun leading => leading ++ replacement) before
        (letters ++ (lead ++ (name ++ rest))) =
      letters ++ (lead ++ (replacement ++
        (referenceFinder table).substituteFrom (fun leading => leading ++ replacement)
          (lastOr before (letters ++ (lead ++ name))) rest)) := by
  obtain ⟨c, letters, rfl⟩ := List.exists_cons_of_ne_nil nonempty
  have split : c :: letters ++ (lead ++ (name ++ rest)) =
      c :: ((letters ++ (lead ++ name)) ++ rest) := by simp
  have last : lastOr before (c :: letters ++ (lead ++ name)) =
      lastOr (some c) (letters ++ (lead ++ name)) :=
    lastOr_cons before c (letters ++ (lead ++ name))
  rw [split] at found ⊢
  rw [Finder.substituteFrom_found _ (letters ++ (lead ++ name)) rest found, last]
  simp

theorem referenceFinder_of_no_reading (wordlike : Wordlike table) {letters : Text}
    {others : List Token} (proper : Proper (.word letters :: others))
    {before : Option Char} (border : isWordAt before = false)
    (absent : ∀ started, started? (.word letters) (leadingMark others) = some started →
      ∀ found, reading started others = some found → folded found.name ≠ folded table) :
    referenceFinder table before (letters ++ spell others) = none := by
  rw [referenceFinder_spell wordlike proper border]
  cases start : started? (.word letters) (leadingMark others) with
  | none => rfl
  | some started =>
      rw [Option.bind_some]
      cases read : reading started others with
      | none => rfl
      | some found => exact if_neg (absent started start found read)

/-- The scan from any place that leads on to nothing of the table is the renaming
from there.  The induction is on the number of tokens, for a find consumes
several of them. -/
theorem substituteFrom_spell (wordlike : Wordlike table) (replacement : Text)
    {place : Place} {list : List Token} (proper : Proper list)
    (quiet : Quiet table place list) {before : Option Char}
    (border : opensWithWord list = true → isWordAt before = false) :
    (referenceFinder table).substituteFrom (fun leading => leading ++ replacement) before
        (spell list) =
      spell (renameScanned table replacement place list) := by
  induction count : list.length using Nat.strong_induction_on
    generalizing list place before with
  | _ bound induction =>
  cases proper with
  | nil => rfl
  | @mark c others noWord proper =>
      have silent := @referenceFinder_of_border table before (c :: spell others) noWord
      have later := quiet.after fun started start => by cases start
      have border : opensWithWord others = true → isWordAt (some c) = false :=
        fun _ => noWord
      have step := induction others.length (by simp [← count]) proper later border rfl
      rw [quiet.renameScanned_cons, spell_cons, spell_cons, Token.spelling,
        List.singleton_append, Finder.substituteFrom_plain _ silent, step]
      rfl
  | @word letters others nonempty isWord separate proper =>
      have whole := Proper.word nonempty isWord separate proper
      have search := referenceFinder_spell wordlike whole (border rfl)
      rw [quiet.renameScanned_cons, spell_cons, spell_cons, Token.spelling]
      by_cases hit : ∃ started found,
          started? (.word letters) (leadingMark others) = some started ∧
            reading started others = some found ∧ folded found.name = folded table
      · obtain ⟨started, found, start, read, same⟩ := hit
        have parts := eq_append_of_reading read
        have restProper : Proper (.word found.name :: found.rest) :=
          Proper.of_append (parts ▸ proper)
        have shorter : found.rest.length < bound := by
          rw [← count, parts]
          simp only [List.length_cons, List.length_append]
          omega
        have place : after place (.word letters) (leadingMark others) = started := by
          rw [after, start]
          rfl
        have renamed :=
          renameScanned_of_reading replacement (regular_of_started? start) read same
        have later : ∀ before, (referenceFinder table).substituteFrom
            (fun leading => leading ++ replacement) before (spell found.rest) =
              spell (renameScanned table replacement .elsewhere found.rest) := by
          intro before
          refine induction _ shorter restProper.tail (quiet_elsewhere found.rest) ?_ rfl
          intro opens
          rw [restProper.separate] at opens
          cases opens
        have split : spell others = spell found.lead ++ (found.name ++ spell found.rest) := by
          rw [parts, spell_append, spell_cons, Token.spelling]
        rw [start, Option.bind_some, read, Option.bind_some, if_pos same, split] at search
        rw [place, renamed, split, substituteFrom_reference replacement nonempty search,
          later, spell_append, spell_cons, Token.spelling]
      · have silent := referenceFinder_of_no_reading wordlike whole (border rfl)
          fun started start found read same => hit ⟨started, found, start, read, same⟩
        have later := quiet.after fun started start found read same =>
          hit ⟨started, found, start, read, same⟩
        rw [Finder.substituteFrom_word startsAtBorder_referenceFinder _ nonempty isWord silent]
        rw [induction others.length (by simp [← count]) proper later (by simp [separate]) rfl]

theorem renameTable_eq_scanned (wordlike : Wordlike table) (replacement sql : Text) :
    renameTable table replacement sql =
      spell (renameScanned table replacement .elsewhere (tokens sql)) := by
  rw [renameTable, Finder.substitute_eq]
  conv_lhs => rw [← spell_tokens sql]
  exact substituteFrom_spell wordlike replacement (proper_tokens sql)
    (quiet_elsewhere _) fun _ => rfl

/-- Renaming a table changes the references whose names are spellings of it. -/
theorem renameTable_eq (wordlike : Wordlike table) (idle : startsClause table = false)
    (replacement sql : Text) :
    renameTable table replacement sql =
      spell (rename (retarget table replacement) .elsewhere (tokens sql)) := by
  rw [renameTable_eq_scanned wordlike, renameScanned_eq_rename idle]

end Table

/-- A change that keeps names words, and keeps keywords apart from names. -/
structure Tame (change : Text → Text) : Prop where
  isWord : ∀ name, name ≠ [] → (∀ c ∈ name, isWord c = true) →
    change name ≠ [] ∧ ∀ c ∈ change name, Text.isWord c = true
  idle : ∀ name, change name = name ∨
    (startsClause name = false ∧ startsClause (change name) = false)

namespace Tame

theorem self : Tame fun name => name :=
  ⟨fun _ nonempty isWord => ⟨nonempty, isWord⟩, fun _ => .inl rfl⟩

theorem comp {first second : Text → Text} (firstTame : Tame first)
    (secondTame : Tame second) : Tame fun name => second (first name) := by
  refine ⟨fun name nonempty isWord => ?_, fun name => ?_⟩
  · obtain ⟨firstNonempty, firstWord⟩ := firstTame.isWord name nonempty isWord
    exact secondTame.isWord (first name) firstNonempty firstWord
  · rcases firstTame.idle name with fixed | ⟨before, between⟩
    · rw [fixed]
      exact secondTame.idle name
    · rcases secondTame.idle (first name) with fixed | ⟨-, behind⟩
      · exact .inr ⟨before, by rw [fixed]; exact between⟩
      · exact .inr ⟨before, behind⟩

theorem retarget {table replacement : Text} (idle : startsClause table = false)
    (nonempty : replacement ≠ []) (isWord : ∀ c ∈ replacement, Text.isWord c = true)
    (replacementIdle : startsClause replacement = false) :
    Tame (retarget table replacement) := by
  refine ⟨fun name nameNonempty nameWord => ?_, fun name => ?_⟩
  · rw [Sql.retarget]
    split
    · exact ⟨nonempty, isWord⟩
    · exact ⟨nameNonempty, nameWord⟩
  · rw [Sql.retarget]
    split
    next same => exact .inr ⟨startsClause_of_folded same ▸ idle, replacementIdle⟩
    next => exact .inl rfl

variable {change : Text → Text}

theorem started? (tame : Tame change) (name : Text) (next : Option Char) :
    Sql.started? (.word (change name)) next = Sql.started? (.word name) next := by
  rcases tame.idle name with fixed | ⟨before, behind⟩
  · rw [fixed]
  · rw [started?_of_startsClause before, started?_of_startsClause behind]

end Tame

private theorem head_rename (change : Text → Text) (place : Place) (list : List Token) :
    leadingMark (rename change place list) = leadingMark list ∧
      opensWithWord (rename change place list) = opensWithWord list := by
  cases list with
  | nil => exact ⟨rfl, rfl⟩
  | cons token others =>
      cases target : target? place token (leadingMark others) with
      | none =>
          rw [rename_of_no_target change target]
          cases token <;> exact ⟨rfl, rfl⟩
      | some name =>
          rw [rename_of_target? change target, eq_word_of_target? target]
          exact ⟨rfl, rfl⟩

theorem leadingMark_rename (change : Text → Text) (place : Place) (list : List Token) :
    leadingMark (rename change place list) = leadingMark list :=
  (head_rename change place list).1

theorem opensWithWord_rename (change : Text → Text) (place : Place) (list : List Token) :
    opensWithWord (rename change place list) = opensWithWord list :=
  (head_rename change place list).2

theorem proper_rename {change : Text → Text} (tame : Tame change) (place : Place)
    {list : List Token} (proper : Proper list) : Proper (rename change place list) := by
  induction proper generalizing place with
  | nil => exact .nil
  | mark noWord proper induction =>
      rw [rename_of_no_target change (target?_mark place _ _)]
      exact .mark noWord (induction _)
  | @word letters others nonempty isWord separate proper induction =>
      cases target : target? place (.word letters) (leadingMark others) with
      | none =>
          rw [rename_of_no_target change target]
          refine .word nonempty isWord ?_ (induction _)
          rw [opensWithWord_rename]
          exact separate
      | some name =>
          cases eq_word_of_target? target
          obtain ⟨changedNonempty, changedWord⟩ := tame.isWord letters nonempty isWord
          rw [rename_of_target? change target]
          refine .word changedNonempty changedWord ?_ (induction _)
          rw [opensWithWord_rename]
          exact separate

theorem target?_word {place : Place} {name : Text} {next : Option Char}
    (target : target? place (.word name) next = some name) (other : Text) :
    target? place (.word other) next = some other := by
  unfold target? at target ⊢
  split at target <;> simp_all

theorem rename_rename {first : Text → Text} (tame : Tame first) (second : Text → Text)
    (place : Place) (list : List Token) :
    rename second place (rename first place list) =
      rename (fun name => second (first name)) place list := by
  induction list generalizing place with
  | nil => rfl
  | cons token others induction =>
      cases target : target? place token (leadingMark others) with
      | none =>
          rw [rename_of_no_target first target, rename_of_no_target _ target,
            rename_of_no_target second (by rw [leadingMark_rename]; exact target),
            leadingMark_rename, induction]
      | some name =>
          cases eq_word_of_target? target
          have changed := target?_word target (first name)
          have samePlace : after place (.word (first name)) (leadingMark others) =
              after place (.word name) (leadingMark others) := by
            rw [after, after, tame.started?, resumed?_of_target? target,
              resumed?_of_target? changed]
          rw [rename_of_target? first target, rename_of_target? _ target,
            rename_of_target? second (by rw [leadingMark_rename]; exact changed),
            leadingMark_rename, samePlace, induction]

/-- What becomes of a name when a suffix is appended table by table. -/
def passes (tables : List Text) (suffix : Text) (name : Text) : Text :=
  tables.foldl (fun name table => retarget table (table ++ suffix) name) name

/-- A table whose references can be told by its name and renamed with a suffix. -/
structure Renamable (suffix table : Text) : Prop where
  wordlike : Wordlike table
  idle : startsClause table = false
  suffixed : startsClause (table ++ suffix) = false

theorem Renamable.tame {suffix table : Text} (renamable : Renamable suffix table)
    (isWord : ∀ c ∈ suffix, isWord c = true) : Tame (retarget table (table ++ suffix)) := by
  refine .retarget renamable.idle ?_ ?_ renamable.suffixed
  · intro empty
    exact renamable.wordlike.nonempty (List.append_eq_nil_iff.mp empty).1
  · intro c member
    rcases List.mem_append.mp member with inTable | inSuffix
    · exact renamable.wordlike.isWord c inTable
    · exact isWord c inSuffix

theorem tame_passes {tables : List Text} {suffix : Text}
    (renamable : ∀ table ∈ tables, Renamable suffix table)
    (isWord : ∀ c ∈ suffix, isWord c = true) : Tame (passes tables suffix) := by
  induction tables with
  | nil => exact .self
  | cons table tables induction =>
      have first := (renamable table List.mem_cons_self).tame isWord
      exact first.comp
        (induction fun other member => renamable other (List.mem_cons_of_mem table member))

theorem renameTables_eq {tables : List Text} {suffix : Text}
    (renamable : ∀ table ∈ tables, Renamable suffix table)
    (isWord : ∀ c ∈ suffix, isWord c = true) (sql : Text) :
    renameTables tables suffix sql =
      spell (rename (passes tables suffix) .elsewhere (tokens sql)) := by
  have general : ∀ (tables : List Text), (∀ table ∈ tables, Renamable suffix table) →
      ∀ change, Tame change →
        renameTables tables suffix (spell (rename change .elsewhere (tokens sql))) =
          spell (rename (fun name => passes tables suffix (change name)) .elsewhere
            (tokens sql)) := by
    intro tables
    induction tables with
    | nil => intro _ change _; rfl
    | cons table tables induction =>
        intro renamable change tame
        have first := renamable table List.mem_cons_self
        have step : renameTable table (table ++ suffix)
            (spell (rename change .elsewhere (tokens sql))) =
              spell (rename (fun name => retarget table (table ++ suffix) (change name))
                .elsewhere (tokens sql)) := by
          rw [renameTable_eq first.wordlike first.idle,
            tokens_spell (proper_rename tame .elsewhere (proper_tokens sql)),
            rename_rename tame]
        rw [renameTables, List.foldl_cons, step]
        exact induction (fun other member => renamable other (List.mem_cons_of_mem table member))
          _ (tame.comp (first.tame isWord))
  have whole := general tables renamable _ .self
  rwa [rename_self, spell_tokens] at whole

end SqlFanout.Sql
