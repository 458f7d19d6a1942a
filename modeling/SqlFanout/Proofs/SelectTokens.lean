import SqlFanout.Proofs.PlainNames
import SqlFanout.Proofs.TopLevel

/-!
# Renaming around the select list

The cuts of a statement behind `SELECT` and before `FROM` fall on the borders of
words, so that they can be made on its tokens.  A renaming replaces words by
words: it moves no cut, as long as it leaves the two keywords alone, and each part
of the statement is renamed on its own (`locate?_rename`).
-/

namespace SqlFanout.Sql

open Text

def Token.spells (keyword : Text) : Token → Bool
  | .word letters => folded letters == folded keyword
  | .mark _ => false

/-- The tokens before a word, the word, and the tokens behind it. -/
structure WordCut where
  front : List Token
  letters : Text
  back : List Token

/-- The first place at which a keyword is spelled in a state that counts. -/
def cutAtWord? (keyword : Text) (counts : Nesting → Bool) :
    Nesting → List Token → Option WordCut
  | _, [] => none
  | nesting, token :: others =>
      if token.spells keyword && counts nesting then some ⟨[], token.spelling, others⟩
      else
        (cutAtWord? keyword counts (nesting.after token.spelling) others).map fun cut =>
          { cut with front := token :: cut.front }

section Cutting

variable {keyword : Text} {counts : Nesting → Bool} {nesting : Nesting}

theorem cutAtWord?_of_spells {token : Token} (spells : token.spells keyword = true)
    (counted : counts nesting = true) (others : List Token) :
    cutAtWord? keyword counts nesting (token :: others) =
      some ⟨[], token.spelling, others⟩ := by
  rw [cutAtWord?, spells, counted]
  rfl

theorem cutAtWord?_of_not {token : Token}
    (passed : (token.spells keyword && counts nesting) = false) (others : List Token) :
    cutAtWord? keyword counts nesting (token :: others) =
      (cutAtWord? keyword counts (nesting.after token.spelling) others).map fun cut =>
        { cut with front := token :: cut.front } := by
  rw [cutAtWord?, passed]
  rfl

theorem cutAtWord?_mark (c : Char) (others : List Token) :
    cutAtWord? keyword counts nesting (.mark c :: others) =
      (cutAtWord? keyword counts (nesting.step c) others).map fun cut =>
        { cut with front := .mark c :: cut.front } :=
  cutAtWord?_of_not rfl others

theorem eq_append_of_cutAtWord? {list : List Token} {cut : WordCut}
    (found : cutAtWord? keyword counts nesting list = some cut) :
    list = cut.front ++ .word cut.letters :: cut.back ∧
      folded cut.letters = folded keyword ∧
      counts (nesting.after (spell cut.front)) = true := by
  induction list generalizing nesting cut with
  | nil => cases found
  | cons token others induction =>
      cases here : token.spells keyword && counts nesting with
      | true =>
          obtain ⟨spells, counted⟩ := Bool.and_eq_true_iff.mp here
          rw [cutAtWord?_of_spells spells counted] at found
          cases found
          cases token with
          | mark => cases spells
          | word letters => exact ⟨rfl, beq_iff_eq.mp spells, counted⟩
      | false =>
          rw [cutAtWord?_of_not here] at found
          obtain ⟨later, laterFound, rfl⟩ := Option.map_eq_some_iff.mp found
          obtain ⟨split, same, counted⟩ := induction laterFound
          refine ⟨by rw [split]; rfl, same, ?_⟩
          rw [spell_cons, Nesting.after_append]
          exact counted

end Cutting

theorem afterWord?_spell {keyword letters : Text} {others : List Token}
    (wordlike : Wordlike keyword) (proper : Proper (.word letters :: others))
    {before : Option Char} (border : isWordAt before = false) :
    afterWord? keyword before (letters ++ spell others) =
      if folded letters = folded keyword then some (spell others) else none := by
  cases proper with
  | word nonempty isWord separate proper =>
      have next := isWordAt_spell_of_separate proper separate
      let ending : Text → Option Text := fun rest =>
        if isWordAt rest.head? = true then none else some rest
      have search : (afterFolded? keyword (letters ++ spell others)).bind ending =
          if folded letters = folded keyword then ending (spell others) else none :=
        afterFolded?_bind_word wordlike isWord next fun rest inside => if_pos inside
      simp only [ending, next, Bool.false_eq_true, if_false] at search
      rw [afterWord?, border, ← search]
      cases afterFolded? keyword (letters ++ spell others) <;> rfl

theorem afterWord?_of_isWordAt {keyword text : Text} {before : Option Char}
    (inside : isWordAt before = true) : afterWord? keyword before text = none := by
  rw [afterWord?, if_pos inside]

private theorem cutBeforeFrom?_word {nesting : Nesting} (sane : nesting.Sane)
    {letters : Text} (isWord : ∀ c ∈ letters, isWord c = true) (text : Text)
    {before : Option Char}
    (silent : (nesting.isTop && (afterWord? "FROM" before (letters ++ text)).isSome) = false) :
    cutBeforeFrom? nesting before (letters ++ text) =
      (cutBeforeFrom? nesting (lastOr before letters) text).map fun cut =>
        (letters ++ cut.1, cut.2) := by
  induction letters generalizing before with
  | nil => simp
  | cons c letters induction =>
      have letter : isWordAt (some c) = true := isWord c List.mem_cons_self
      have stays : nesting.step c = nesting :=
        sane.step_of_not_mem (Nesting.not_mem_brackets_of_isWord letter)
      have inside : afterWord? "FROM" (some c) (letters ++ text) = none :=
        afterWord?_of_isWordAt letter
      have later := @induction (fun d member => isWord d (List.mem_cons_of_mem c member))
        (some c) (by rw [inside]; exact Bool.and_false _)
      rw [List.cons_append] at silent
      rw [List.cons_append, cutBeforeFrom?, silent, stays, later, lastOr_cons]
      simp only [Bool.false_eq_true, if_false, Option.map_map]
      rfl

theorem cutBeforeFrom?_spell {nesting : Nesting} (sane : nesting.Sane) {list : List Token}
    (proper : Proper list) {before : Option Char}
    (border : opensWithWord list = true → isWordAt before = false) :
    cutBeforeFrom? nesting before (spell list) =
      (cutAtWord? "FROM" Nesting.isTop nesting list).map fun cut =>
        (spell cut.front, spell (.word cut.letters :: cut.back)) := by
  induction proper generalizing nesting before with
  | nil => rfl
  | @mark c others noWord proper induction =>
      have silent : afterWord? "FROM" before (c :: spell others) = none :=
        afterWord?_of_border wordlike_from before noWord
      have later := @induction _ (sane.step c) (some c) fun _ => noWord
      rw [spell_cons, Token.spelling, List.singleton_append, cutBeforeFrom?, silent,
        cutAtWord?_mark, later]
      simp only [Option.isSome_none, Bool.and_false, Bool.false_eq_true, if_false,
        Option.map_map]
      rfl
  | @word letters others nonempty isWord separate proper induction =>
      have whole := Proper.word nonempty isWord separate proper
      have search := afterWord?_spell wordlike_from whole (border rfl)
      rw [spell_cons, Token.spelling]
      cases here : (Token.word letters).spells "FROM" && nesting.isTop with
      | true =>
          obtain ⟨spells, top⟩ := Bool.and_eq_true_iff.mp here
          rw [if_pos (beq_iff_eq.mp spells)] at search
          obtain ⟨c, rest, rfl⟩ := List.exists_cons_of_ne_nil nonempty
          rw [List.cons_append] at search
          rw [cutAtWord?_of_spells spells top, List.cons_append, cutBeforeFrom?, search, top]
          rfl
      | false =>
          have silent : (nesting.isTop &&
              (afterWord? "FROM" before (letters ++ spell others)).isSome) = false := by
            rw [search, Bool.and_comm, ← here, Token.spells]
            split
            next same => rw [beq_iff_eq.mpr same]; rfl
            next different => rw [beq_eq_false_iff_ne.mpr different]; rfl
          rw [cutAtWord?_of_not here, cutBeforeFrom?_word sane isWord _ silent,
            induction sane (by simp [separate]), Token.spelling, sane.after_of_isWord isWord]
          simp only [Option.map_map]
          rfl

private theorem cutAfterSelect?_word {letters : Text} (isWord : ∀ c ∈ letters, isWord c = true)
    (text : Text) {before : Option Char}
    (silent : afterWord? "SELECT" before (letters ++ text) = none) :
    cutAfterSelect? before (letters ++ text) =
      (cutAfterSelect? (lastOr before letters) text).map fun cut =>
        (letters ++ cut.1, cut.2) := by
  induction letters generalizing before with
  | nil => simp
  | cons c letters induction =>
      have letter : isWordAt (some c) = true := isWord c List.mem_cons_self
      have later := @induction (fun d member => isWord d (List.mem_cons_of_mem c member))
        (some c) (afterWord?_of_isWordAt letter)
      rw [List.cons_append] at silent
      rw [List.cons_append, cutAfterSelect?, silent, later, lastOr_cons]
      simp only [Option.map_map]
      rfl

theorem cutAfterSelect?_spell {list : List Token} (proper : Proper list)
    {before : Option Char} (border : opensWithWord list = true → isWordAt before = false)
    (nesting : Nesting) :
    cutAfterSelect? before (spell list) =
      (cutAtWord? "SELECT" (fun _ => true) nesting list).map fun cut =>
        (spell (cut.front ++ [.word cut.letters]), spell cut.back) := by
  induction proper generalizing nesting before with
  | nil => rfl
  | @mark c others noWord proper induction =>
      have silent : afterWord? "SELECT" before (c :: spell others) = none :=
        afterWord?_of_border wordlike_select before noWord
      have later := @induction (some c) (fun _ => noWord) (nesting.step c)
      rw [spell_cons, Token.spelling, List.singleton_append, cutAfterSelect?, silent,
        cutAtWord?_mark, later]
      simp only [Option.map_map]
      rfl
  | @word letters others nonempty isWord separate proper induction =>
      have whole := Proper.word nonempty isWord separate proper
      have search := afterWord?_spell wordlike_select whole (border rfl)
      rw [spell_cons, Token.spelling]
      cases spells : (Token.word letters).spells "SELECT" with
      | true =>
          rw [if_pos (beq_iff_eq.mp spells)] at search
          obtain ⟨c, rest, rfl⟩ := List.exists_cons_of_ne_nil nonempty
          rw [List.cons_append] at search
          rw [cutAtWord?_of_spells spells rfl, List.cons_append, cutAfterSelect?, search,
            ← List.cons_append]
          simp only [take_append_sub]
          simp [Token.spelling]
      | false =>
          rw [if_neg (beq_eq_false_iff_ne.mp spells)] at search
          have passed : ((Token.word letters).spells "SELECT" && (fun _ => true) nesting) =
              false := by
            rw [spells]
            rfl
          rw [cutAtWord?_of_not passed, cutAfterSelect?_word isWord _ search,
            induction (by simp [separate]) (nesting.after letters)]
          simp only [Option.map_map]
          rfl

/-- The cuts of a statement behind `SELECT` and before `FROM`. -/
def locateTokens? (list : List Token) : Option (WordCut × WordCut) :=
  (cutAtWord? "SELECT" (fun _ => true) .top list).bind fun select =>
    (cutAtWord? "FROM" Nesting.isTop
      (Nesting.top.after (spell (select.front ++ [.word select.letters]))) select.back).map
        fun found => (select, found)

theorem locate?_spell {list : List Token} (proper : Proper list) :
    SelectClause.locate? (spell list) =
      (locateTokens? list).map fun cuts =>
        ⟨spell (cuts.1.front ++ [.word cuts.1.letters]), spell cuts.2.front,
          spell (.word cuts.2.letters :: cuts.2.back)⟩ := by
  rw [SelectClause.locate?, locateTokens?,
    @cutAfterSelect?_spell list proper none (fun _ => rfl) .top]
  cases selected : cutAtWord? "SELECT" (fun _ => true) .top list with
  | none => rfl
  | some select =>
      obtain ⟨split, -, -⟩ := eq_append_of_cutAtWord? selected
      have behind : Proper (.word select.letters :: select.back) :=
        Proper.of_append (split ▸ proper)
      simp only [Option.map_some, Option.bind_some]
      rw [cutBeforeFrom?_spell (Nesting.sane_top.after _) behind.tail
        (by simp [behind.separate])]
      cases cutAtWord? "FROM" Nesting.isTop _ select.back <;> rfl

/-- A change of names that leaves a keyword alone and puts none in. -/
def Spares (keyword : Text) (change : Text → Text) : Prop :=
  ∀ name, change name = name ∨
    (folded name ≠ folded keyword ∧ folded (change name) ≠ folded keyword)

/-- The place behind some tokens, if these tokens are ahead. -/
def Place.behind : Place → List Token → List Token → Place
  | place, [], _ => place
  | place, token :: others, ahead =>
      (after place token (leadingMark (others ++ ahead))).behind others ahead

/-- What a renaming makes of one token. -/
def renamed (change : Text → Text) (place : Place) (token : Token) (next : Option Char) :
    Token :=
  match target? place token next with
  | some name => .word (change name)
  | none => token

theorem rename_cons (change : Text → Text) (place : Place) (token : Token)
    (others : List Token) :
    rename change place (token :: others) =
      renamed change place token (leadingMark others) ::
        rename change (after place token (leadingMark others)) others := rfl

section Renaming

variable {change : Text → Text}

theorem Spares.spells_renamed {keyword : Text} (spares : Spares keyword change)
    (place : Place) (token : Token) (next : Option Char) :
    (renamed change place token next).spells keyword = token.spells keyword ∧
      (token.spells keyword = true → renamed change place token next = token) := by
  rw [renamed]
  cases target : target? place token next with
  | none => exact ⟨rfl, fun _ => rfl⟩
  | some name =>
      cases eq_word_of_target? target
      rcases spares name with same | ⟨before, behind⟩
      · simp only [same]
        exact ⟨trivial, fun _ => trivial⟩
      · simp only [Token.spells, beq_eq_false_iff_ne.mpr before,
          beq_eq_false_iff_ne.mpr behind]
        exact ⟨trivial, fun spells => by cases spells⟩

theorem Tame.renamed_cases (tame : Tame change) {token : Token} {others : List Token}
    (proper : Proper (token :: others)) (place : Place) (next : Option Char) :
    (∃ c, token = .mark c ∧ renamed change place token next = .mark c) ∨
      ∃ letters changed, token = .word letters ∧
        renamed change place token next = .word changed ∧
        (letters ≠ [] ∧ ∀ c ∈ letters, Text.isWord c = true) ∧
        (changed ≠ [] ∧ ∀ c ∈ changed, Text.isWord c = true) := by
  cases proper with
  | @mark c =>
      left
      refine ⟨c, rfl, ?_⟩
      rw [renamed, target?_mark]
  | @word letters _ nonempty isWord =>
      right
      rw [renamed]
      cases target : target? place (.word letters) next with
      | none => exact ⟨letters, letters, rfl, rfl, ⟨nonempty, isWord⟩, nonempty, isWord⟩
      | some name =>
          cases eq_word_of_target? target
          exact ⟨letters, change letters, rfl, rfl, ⟨nonempty, isWord⟩,
            tame.isWord letters nonempty isWord⟩

theorem Tame.after_renamed (tame : Tame change) {token : Token} {others : List Token}
    (proper : Proper (token :: others)) (place : Place) (next : Option Char)
    {nesting : Nesting} (sane : nesting.Sane) :
    nesting.after (renamed change place token next).spelling =
      nesting.after token.spelling := by
  rcases tame.renamed_cases proper place next with
    ⟨c, rfl, same⟩ | ⟨letters, changed, rfl, word, ⟨-, isWord⟩, -, changedWord⟩
  · rw [same]
  · rw [word, Token.spelling, Token.spelling, sane.after_of_isWord isWord,
      sane.after_of_isWord changedWord]

theorem leadingMark_append_word (front : List Token) (letters : Text) (back : List Token) :
    leadingMark (front ++ .word letters :: back) = leadingMark front := by
  cases front with
  | nil => rfl
  | cons token front => cases token <;> rfl

/-- A renaming moves no cut at a keyword that it spares. -/
theorem cutAtWord?_rename {keyword : Text} {counts : Nesting → Bool} (tame : Tame change)
    (spares : Spares keyword change) {nesting : Nesting} (sane : nesting.Sane)
    {list : List Token} (proper : Proper list) (place : Place) :
    cutAtWord? keyword counts nesting (rename change place list) =
      (cutAtWord? keyword counts nesting list).map fun cut =>
        ⟨rename change place cut.front, cut.letters,
          rename change (place.behind (cut.front ++ [.word cut.letters]) cut.back)
            cut.back⟩ := by
  induction list generalizing nesting place with
  | nil => rfl
  | cons token others induction =>
      obtain ⟨spelled, fixed⟩ := spares.spells_renamed place token (leadingMark others)
      rw [rename_cons]
      cases here : token.spells keyword && counts nesting with
      | true =>
          obtain ⟨spells, counted⟩ := Bool.and_eq_true_iff.mp here
          rw [fixed spells, cutAtWord?_of_spells spells counted,
            cutAtWord?_of_spells spells counted]
          cases token with
          | mark => cases spells
          | word letters => rfl
      | false =>
          have passed : ((renamed change place token (leadingMark others)).spells keyword &&
              counts nesting) = false := by
            rw [spelled]
            exact here
          rw [cutAtWord?_of_not passed, cutAtWord?_of_not here,
            tame.after_renamed proper place _ sane,
            induction (sane.after _) proper.tail]
          cases found : cutAtWord? keyword counts (nesting.after token.spelling) others with
          | none => rfl
          | some cut =>
              obtain ⟨split, -, -⟩ := eq_append_of_cutAtWord? found
              have next : leadingMark others = leadingMark cut.front := by
                rw [split, leadingMark_append_word]
              simp only [Option.map_some, rename_cons, List.cons_append, Place.behind,
                List.append_assoc, leadingMark_append_word, next]

theorem Tame.after_spell_rename (tame : Tame change) {list : List Token}
    (proper : Proper list) (place : Place) {nesting : Nesting} (sane : nesting.Sane) :
    nesting.after (spell (rename change place list)) = nesting.after (spell list) := by
  induction list generalizing nesting place with
  | nil => rfl
  | cons token others induction =>
      rw [rename_cons, spell_cons, spell_cons, Nesting.after_append, Nesting.after_append,
        tame.after_renamed proper place _ sane, induction proper.tail _ (sane.after _)]

theorem Place.behind_append_word (place : Place) (list ahead : List Token) (letters : Text)
    (back : List Token) :
    place.behind list (ahead ++ .word letters :: back) = place.behind list ahead := by
  induction list generalizing place with
  | nil => rfl
  | cons token others induction =>
      rw [behind, behind, induction, ← List.append_assoc, leadingMark_append_word]

theorem locateTokens?_eq_some_iff {list : List Token} {select found : WordCut} :
    locateTokens? list = some (select, found) ↔
      cutAtWord? "SELECT" (fun _ => true) .top list = some select ∧
        cutAtWord? "FROM" Nesting.isTop
          (Nesting.top.after (spell (select.front ++ [.word select.letters]))) select.back =
            some found := by
  rw [locateTokens?, Option.bind_eq_some_iff]
  constructor
  · rintro ⟨_, selected, later⟩
    obtain ⟨_, fromFound, pair⟩ := Option.map_eq_some_iff.mp later
    cases pair
    exact ⟨selected, fromFound⟩
  · rintro ⟨selected, fromFound⟩
    exact ⟨select, selected, Option.map_eq_some_iff.mpr ⟨found, fromFound, rfl⟩⟩

/-- A renamed statement is cut where the statement is, into its renamed parts. -/
theorem locateTokens?_rename (tame : Tame change) (selects : Spares "SELECT" change)
    (froms : Spares "FROM" change) {list : List Token} (proper : Proper list)
    {select found : WordCut} {place : Place}
    (behind : place =
      Place.elsewhere.behind (select.front ++ [.word select.letters]) select.back)
    (located : locateTokens? list = some (select, found)) :
    locateTokens? (rename change .elsewhere list) =
      some (⟨rename change .elsewhere select.front, select.letters,
          rename change place select.back⟩,
        ⟨rename change place found.front, found.letters,
          rename change (place.behind (found.front ++ [.word found.letters]) found.back)
            found.back⟩) := by
  obtain ⟨selected, fromFound⟩ := locateTokens?_eq_some_iff.mp located
  obtain ⟨split, -, -⟩ := eq_append_of_cutAtWord? selected
  rw [split] at proper
  have frontProper := proper.of_append_left
  have backProper := proper.of_append.tail
  have sane := Nesting.sane_top
  rw [locateTokens?_eq_some_iff]
  constructor
  · rw [cutAtWord?_rename tame selects sane (split ▸ proper) .elsewhere, selected, behind]
    rfl
  · have level : Nesting.top.after (spell (rename change .elsewhere select.front ++
        [.word select.letters])) =
          Nesting.top.after (spell (select.front ++ [.word select.letters])) := by
      rw [spell_append, spell_append, Nesting.after_append, Nesting.after_append,
        tame.after_spell_rename frontProper .elsewhere sane]
    rw [level, cutAtWord?_rename tame froms (sane.after _) backProper place, fromFound]
    rfl

/-- The names by which the list of fields refers to tables. -/
def SelectClause.listedNames (clause : SelectClause) : List Text :=
  targets (Place.elsewhere.behind (tokens clause.head) (tokens clause.fields))
    (tokens clause.fields)

/-- A renaming leaves a statement its select clause; the list of fields stays the
same if the names in it do. -/
theorem locate?_rename (tame : Tame change) (selects : Spares "SELECT" change)
    (froms : Spares "FROM" change) {text : Text} {clause : SelectClause}
    (located : SelectClause.locate? text = some clause) :
    ∃ other, SelectClause.locate? (spell (rename change .elsewhere (tokens text))) = some other ∧
      Nesting.top.after other.head = Nesting.top.after clause.head ∧
      ((∀ name ∈ clause.listedNames, change name = name) → other.fields = clause.fields) := by
  have proper := proper_tokens text
  rw [← spell_tokens text, locate?_spell proper] at located
  obtain ⟨⟨select, found⟩, cuts, rfl⟩ := Option.map_eq_some_iff.mp located
  obtain ⟨selected, fromFound⟩ := locateTokens?_eq_some_iff.mp cuts
  obtain ⟨split, -, -⟩ := eq_append_of_cutAtWord? selected
  obtain ⟨backSplit, -, -⟩ := eq_append_of_cutAtWord? fromFound
  have whole : Proper (select.front ++ .word select.letters :: select.back) := split ▸ proper
  have again := locateTokens?_rename tame selects froms proper rfl cuts
  refine ⟨_, by rw [locate?_spell (proper_rename tame .elsewhere proper), again]; rfl, ?_, ?_⟩
  · simp only [spell_append, Nesting.after_append]
    rw [tame.after_spell_rename whole.of_append_left .elsewhere Nesting.sane_top]
  · intro fixed
    have headProper : Proper (select.front ++ [.word select.letters]) := by
      apply @Proper.of_append_left _ select.back
      rw [List.append_assoc]
      exact whole
    have fieldsProper : Proper found.front :=
      (backSplit ▸ whole.of_append.tail : Proper (found.front ++ _)).of_append_left
    rw [SelectClause.listedNames, tokens_spell headProper, tokens_spell fieldsProper] at fixed
    have place : Place.elsewhere.behind (select.front ++ [.word select.letters]) select.back =
        Place.elsewhere.behind (select.front ++ [.word select.letters]) found.front := by
      rw [backSplit, Place.behind_append_word]
    rw [place, (rename_eq_iff change (fun name => name) _ _).mpr fixed, rename_self]

end Renaming

end SqlFanout.Sql
