import Mathlib.Data.List.Basic
import SqlFanout.Proofs.PlainNames

/-!
# The tables of a renamed statement

Tables are listed by a scan of their own, which differs from the one that renames
them: it passes over the name it has found, be it a keyword, and it accepts a name
that a dot follows.  Here its finds are told on tokens (`reference?`) and carried
through a renaming (`findAllFrom_rename`).  Where no find is followed by a dot,
listing the tables of a renamed text is renaming the tables of the text
(`tableNames_renameTable`).
-/

namespace SqlFanout.Text.Finder

variable {α β : Type}

/-- The induction runs over the text with the number of characters still to skip. -/
private theorem filterMap_scanFrom_map {find : Finder α} {other : Finder β} (change : α → β)
    (agree : ∀ before text, other before text =
      (find before text).map fun found => (change found.1, found.2))
    (text : Text) (skip : Nat) (before : Option Char) :
    (scanFrom other skip before text).filterMap (fun
        | .found value _ => some value
        | .plain _ => none) =
      ((scanFrom find skip before text).filterMap fun
        | .found value _ => some value
        | .plain _ => none).map change := by
  induction text generalizing skip before with
  | nil => cases skip <;> rfl
  | cons c rest induction =>
      cases skip with
      | succ skip => exact induction skip (some c)
      | zero =>
          rw [scanFrom, scanFrom, agree]
          cases find before (c :: rest) with
          | none => exact induction 0 (some c)
          | some found => exact congrArg (List.cons _) (induction _ (some c))

theorem findAllFrom_map {find : Finder α} {other : Finder β} (change : α → β)
    (agree : ∀ before text, other before text =
      (find before text).map fun found => (change found.1, found.2))
    (before : Option Char) (text : Text) :
    findAllFrom other before text = (findAllFrom find before text).map change :=
  filterMap_scanFrom_map change agree text 0 before

end SqlFanout.Text.Finder

namespace SqlFanout.Sql

open Text

/-- A dot and a name at the beginning of a list of tokens, and what is behind them. -/
def dottedName? : List Token → Option (Text × List Token)
  | .mark c :: .word letters :: others =>
      if c = '.' ∧ isName letters = true then some (letters, others) else none
  | _ => none

/-- The reference that the clause being read leads on to, and the tokens behind it. -/
def reference? : Place → List Token → Option (TableReference × List Token)
  | .expecting words, .mark c :: others =>
      if isBlank c then reference? (.expecting words) others else none
  | .expecting (word :: words), .word letters :: others =>
      if folded letters = folded word ∧ (leadingMark others).any isBlank = true then
        reference? (.expecting words) others
      else none
  | .expecting [], .word letters :: others =>
      if isName letters then
        match dottedName? others with
        | some (second, rest) => some (⟨some letters, second⟩, rest)
        | none => some (⟨none, letters⟩, others)
      else none
  | _, _ => none

/-- A reference as it is found in a text: what is behind it is spelled out. -/
def spelled (found : TableReference × List Token) : TableReference × Text :=
  (found.1, spell found.2)

theorem dottedName?_eq_some {list others : List Token} {letters : Text}
    (dotted : dottedName? list = some (letters, others)) :
    list = .mark '.' :: .word letters :: others ∧ isName letters = true := by
  unfold dottedName? at dotted
  split at dotted
  · split at dotted
    next both =>
      cases dotted
      exact ⟨by rw [both.1], both.2⟩
    next => cases dotted
  · cases dotted

private theorem takeName?_dotted {list : List Token} (proper : Proper list) :
    match dottedName? (.mark '.' :: list) with
    | some (letters, others) =>
        takeName? (spell list) = some (letters, spell others) ∧
          isWordAt (spell others).head? = false
    | none => ∀ first rest, takeName? (spell list) = some (first, rest) →
        isWordAt rest.head? = true := by
  cases proper with
  | nil => simp [dottedName?, takeName?]
  | @mark c others noWord =>
      have border : isWordAt (spell (.mark c :: others)).head? = false := noWord
      intro first rest taken
      rw [takeName?_of_border border] at taken
      cases taken
  | @word letters others nonempty isWord separate proper =>
      have border := isWordAt_spell_of_separate proper separate
      have taken := takeName?_word isWord border nonempty
      by_cases name : isName letters = true
      · rw [if_pos name] at taken
        simpa [dottedName?, name, Token.spelling, taken] using border
      · rw [if_neg name] at taken
        simpa [dottedName?, name, Token.spelling] using taken

private theorem read?_plain {text first rest : Text}
    (taken : takeName? text = some (first, rest)) (border : isWordAt rest.head? = false)
    (single : ∀ more, rest = '.' :: more → ∀ second after,
      takeName? more = some (second, after) → isWordAt after.head? = true) :
    TableReference.read? text = some (⟨none, first⟩, rest) := by
  rw [TableReference.read?, taken]
  simp only [border, Bool.false_eq_true, if_false]
  split
  next more =>
    split
    next second after found => rw [if_pos (single more rfl second after found)]
    next => rfl
  next => rfl

private theorem read?_qualified {text first more second after : Text}
    (taken : takeName? text = some (first, '.' :: more))
    (behind : takeName? more = some (second, after))
    (border : isWordAt after.head? = false) :
    TableReference.read? text = some (⟨some first, second⟩, after) := by
  rw [TableReference.read?, taken]
  simp [behind, border]

private theorem read?_inside {text : Text}
    (inside : ∀ first rest, takeName? text = some (first, rest) →
      isWordAt rest.head? = true) : TableReference.read? text = none := by
  rw [TableReference.read?]
  cases taken : takeName? text with
  | none => rfl
  | some found =>
      obtain ⟨first, rest⟩ := found
      have letter := inside first rest taken
      simp only [letter, if_true]
      split
      next more =>
        have dot : isWord '.' = true := letter
        exact absurd dot (by decide)
      next => rfl

theorem read?_spell_word {letters : Text} {others : List Token}
    (proper : Proper (.word letters :: others)) :
    TableReference.read? (letters ++ spell others) =
      (reference? (.expecting []) (.word letters :: others)).map spelled := by
  cases proper with
  | word nonempty isWord separate proper =>
      have border := isWordAt_spell_of_separate proper separate
      have taken := takeName?_word isWord border nonempty
      rw [reference?]
      by_cases name : isName letters = true
      · rw [if_pos name] at taken ⊢
        cases dotted : dottedName? others with
        | some found =>
            obtain ⟨second, rest⟩ := found
            obtain ⟨rfl, -⟩ := dottedName?_eq_some dotted
            have behind := takeName?_dotted proper.tail
            simp only [dotted] at behind
            exact read?_qualified taken behind.1 behind.2
        | none =>
            apply read?_plain taken border
            intro more split second after found
            cases proper with
            | nil => cases split
            | word => cases separate
            | @mark c list noWord proper =>
                obtain ⟨rfl, rfl⟩ : c = '.' ∧ spell list = more := List.cons.inj split
                have behind := takeName?_dotted proper
                simp only [dotted] at behind
                exact behind second after found
      · rw [if_neg name] at taken ⊢
        exact read?_inside taken

theorem reference?_behindBlanks (words : List Text) (list : List Token) :
    reference? (.expecting words) (behindBlanks list) =
      reference? (.expecting words) list := by
  induction list with
  | nil => rfl
  | cons token others induction =>
      cases token with
      | word => rfl
      | mark c =>
          rw [behindBlanks]
          split
          next blank => rw [induction, reference?, if_pos blank]
          next => rfl

private theorem read?_spell {list : List Token} (proper : Proper list)
    (noBlank : (leadingMark list).any isBlank = false) :
    TableReference.read? (spell list) = (reference? (.expecting []) list).map spelled := by
  cases proper with
  | nil => rfl
  | @mark c others noWord proper =>
      have marked : isBlank c = false := noBlank
      have border : isWordAt (spell (.mark c :: others)).head? = false := noWord
      rw [TableReference.read?, takeName?_of_border border, reference?, marked]
      rfl
  | word nonempty isWord separate proper =>
      exact read?_spell_word (.word nonempty isWord separate proper)

theorem reads_reference :
    Reads (fun text => (afterBlanks? text).bind TableReference.read?) fun place list =>
      (reference? place list).map spelled where
  refuses := by
    intro text inside
    rw [afterBlanks?_of_isWordAt inside]
    rfl
  starts := by
    intro list proper
    rw [afterBlanks?_spell proper]
    split
    · rw [Option.bind_some,
        read?_spell (proper_behindBlanks proper) (leadingMark_behindBlanks list),
        reference?_behindBlanks]
    · rfl
  blank := by
    intro words c others blank
    rw [reference?, if_pos blank]
  keyword := by
    intro word words letters others
    rw [reference?]
    split <;> rfl
  missing := by
    intro word words list separate noBlank
    cases list with
    | nil => rfl
    | cons token others =>
        cases token with
        | word => cases separate
        | mark c =>
            have marked : isBlank c = false := noBlank
            rw [reference?, marked]
            rfl

theorem finder_eq (before : Option Char) (text : Text) :
    TableReference.finder before text =
      (afterTableClause? before text).bind fun rest =>
        (afterBlanks? rest).bind TableReference.read? := by
  rw [TableReference.finder]
  cases afterTableClause? before text with
  | none => rfl
  | some rest =>
      simp only [Option.bind_some]
      cases afterBlanks? rest <;> rfl

theorem finder_spell {letters : Text} {others : List Token}
    (proper : Proper (.word letters :: others)) {before : Option Char}
    (border : isWordAt before = false) :
    TableReference.finder before (letters ++ spell others) =
      (started? (.word letters) (leadingMark others)).bind fun place =>
        (reference? place others).map spelled := by
  rw [finder_eq, reads_reference.afterTableClause?_bind proper border]

theorem finder_of_border (before : Option Char) {text : Text}
    (border : isWordAt text.head? = false) : TableReference.finder before text = none := by
  rw [finder_eq, afterTableClause?_of_border before border]
  rfl

theorem startsAtBorder_finder : TableReference.finder.StartsAtBorder := by
  intro before text inside
  rw [finder_eq, afterTableClause?, if_pos inside]
  rfl

section Rename

variable {change : Text → Text}

/-- What becomes of a reference and the character behind it: before a dot, a name is
left as it is. -/
def carried (change : Text → Text) (found : TableReference × Option Char) :
    TableReference × Option Char :=
  if found.2 = some '.' then found
  else ({ found.1 with table := change found.1.table }, found.2)

theorem dottedName?_of_ne {c : Char} (other : c ≠ '.') (list : List Token) :
    dottedName? (.mark c :: list) = none := by
  cases list with
  | nil => rfl
  | cons token others =>
      cases token with
      | mark => rfl
      | word letters => exact if_neg fun both => other both.1

theorem dottedName?_of_no_dot {list : List Token} (other : leadingMark list ≠ some '.') :
    dottedName? list = none := by
  cases list with
  | nil => rfl
  | cons token others =>
      cases token with
      | word => rfl
      | mark c => exact dottedName?_of_ne (fun dot => other (congrArg some dot)) others

private theorem dottedName?_rename (named : ∀ name, isName (change name) = isName name)
    (list : List Token) :
    dottedName? (rename change .schema list) =
      (dottedName? list).map fun found =>
        (if leadingMark found.2 = some '.' then found.1 else change found.1,
          rename change (after .qualified (.word found.1) (leadingMark found.2)) found.2) := by
  by_cases dot : leadingMark list = some '.'
  · cases list with
    | nil => cases dot
    | cons token others =>
        cases token with
        | word => cases dot
        | mark c =>
            obtain rfl : c = '.' := Option.some.inj dot
            have step : after .schema (.mark '.') (leadingMark others) = .qualified := rfl
            rw [rename_of_no_target change (target?_mark .schema '.' _), step]
            cases others with
            | nil => rfl
            | cons token others =>
                cases token with
                | mark d =>
                    rw [rename_of_no_target change (target?_mark .qualified d _)]
                    rfl
                | word letters =>
                    by_cases behind : leadingMark others = some '.'
                    · have target : target? .qualified (.word letters)
                          (leadingMark others) = none := if_pos behind
                      rw [rename_of_no_target change target, dottedName?, dottedName?]
                      split <;> simp [behind]
                    · have target : target? .qualified (.word letters)
                          (leadingMark others) = some letters := if_neg behind
                      rw [rename_of_target? change target, dottedName?, dottedName?, named]
                      split <;> simp [behind]
  · rw [dottedName?_of_no_dot dot, dottedName?_of_no_dot]
    · rfl
    · rw [leadingMark_rename]
      exact dot

/-- How what a clause of a renamed text leads on to comes from what that clause of
the text leads on to. -/
def Carries (change : Text → Text) (found renamed : Option (TableReference × List Token)) :
    Prop :=
  match found with
  | none => renamed = none
  | some (reference, rest) => ∃ later, renamed =
      some ((carried change (reference, leadingMark rest)).1, rename change later rest)

/-- Where a name is to come, a word that is none leads on to nothing, a name before a
dot stays and makes place for the one behind it, and any other name is changed. -/
private theorem carries_name (named : ∀ name, isName (change name) = isName name)
    (letters : Text) (others : List Token) :
    Carries change (reference? (.expecting []) (.word letters :: others))
      (reference? (.expecting [])
        (rename change (.expecting []) (.word letters :: others))) := by
  by_cases dot : leadingMark others = some '.'
  · have target : target? (.expecting []) (.word letters) (leadingMark others) = none :=
      if_pos dot
    rw [rename_of_no_target change target, reference?, reference?]
    by_cases name : isName letters = true
    · have step : resumed? (.expecting []) (.word letters) (leadingMark others) =
          some .schema := if_pos ⟨dot, name⟩
      have regular : (Place.expecting []).Regular := by
        change [] ∈ tableClauses.map List.tail
        decide
      rw [regular.after_eq step, if_pos name, if_pos name, dottedName?_rename named]
      cases dottedName? others with
      | none =>
          refine ⟨.schema, ?_⟩
          simp [carried, dot]
      | some second =>
          refine ⟨after .qualified (.word second.1) (leadingMark second.2), ?_⟩
          by_cases behind : leadingMark second.2 = some '.' <;> simp [carried, behind]
    · rw [if_neg name, if_neg name]
      rfl
  · have target : target? (.expecting []) (.word letters) (leadingMark others) =
        some letters := if_neg dot
    rw [rename_of_target? change target, reference?, reference?, named]
    by_cases name : isName letters = true
    · have still : leadingMark (rename change
          (after (.expecting []) (.word letters) (leadingMark others)) others) ≠ some '.' := by
        rw [leadingMark_rename]
        exact dot
      rw [if_pos name, if_pos name, dottedName?_of_no_dot dot, dottedName?_of_no_dot still]
      refine ⟨after (.expecting []) (.word letters) (leadingMark others), ?_⟩
      simp [carried, dot]
    · rw [if_neg name, if_neg name]
      rfl

theorem carries_reference? (named : ∀ name, isName (change name) = isName name)
    {words : List Text} (regular : (Place.expecting words).Regular) (list : List Token) :
    Carries change (reference? (.expecting words) list)
      (reference? (.expecting words) (rename change (.expecting words) list)) := by
  induction list generalizing words with
  | nil => rfl
  | cons token others induction =>
      cases token with
      | mark c =>
          rw [rename_of_no_target change (target?_mark _ c _), reference?, reference?]
          split
          next blank =>
            have step : resumed? (.expecting words) (.mark c) (leadingMark others) =
                some (.expecting words) := if_pos blank
            rw [regular.after_eq step]
            exact induction regular
          next => rfl
      | word letters =>
          cases words with
          | nil => exact carries_name named letters others
          | cons word words =>
              rw [rename_of_no_target change rfl, reference?, reference?, leadingMark_rename]
              split
              next keyword =>
                have step : resumed? (.expecting (word :: words)) (.word letters)
                    (leadingMark others) = some (.expecting words) := if_pos keyword
                rw [regular.after_eq step]
                exact induction (regular.resumed? step)
              next => rfl

/-- Finds a reference and tells the character that follows it. -/
def followedReference : Finder (TableReference × Option Char) := fun before text =>
  (TableReference.finder before text).map fun found => ((found.1, found.2.head?), found.2)

theorem eq_append_of_reference? {words : List Text} {list rest : List Token}
    {reference : TableReference}
    (found : reference? (.expecting words) list = some (reference, rest)) :
    ∃ lead, list = lead ++ .word reference.table :: rest := by
  induction list generalizing words with
  | nil => cases found
  | cons token others induction =>
      cases token with
      | mark c =>
          rw [reference?] at found
          split at found
          · obtain ⟨lead, rfl⟩ := induction found
            exact ⟨.mark c :: lead, rfl⟩
          · cases found
      | word letters =>
          cases words with
          | cons word words =>
              rw [reference?] at found
              split at found
              · obtain ⟨lead, rfl⟩ := induction found
                exact ⟨.word letters :: lead, rfl⟩
              · cases found
          | nil =>
              rw [reference?] at found
              split at found
              · cases dotted : dottedName? others with
                | none =>
                    simp only [dotted] at found
                    cases found
                    exact ⟨[], rfl⟩
                | some second =>
                    obtain ⟨name, behind⟩ := second
                    simp only [dotted] at found
                    cases found
                    obtain ⟨rfl, -⟩ := dottedName?_eq_some dotted
                    exact ⟨[.word letters, .mark '.'], rfl⟩
              · cases found

theorem expecting_of_started? {token : Token} {next : Option Char} {place : Place}
    (start : started? token next = some place) : ∃ words, place = .expecting words := by
  cases token with
  | mark => cases start
  | word letters =>
      obtain ⟨words, clause, step⟩ := List.exists_of_findSome?_eq_some start
      obtain ⟨word, others, rfl, -⟩ := keyword_cases clause
      rw [resumed?] at step
      split at step
      · cases step
        exact ⟨others, rfl⟩
      · cases step

/-- What the clause that starts at a word leads on to, if one does. -/
def referenceAt? (letters : Text) (others : List Token) :
    Option (TableReference × List Token) :=
  (started? (.word letters) (leadingMark others)).bind fun place => reference? place others

theorem eq_append_of_referenceAt? {letters : Text} {others rest : List Token}
    {reference : TableReference} (found : referenceAt? letters others = some (reference, rest)) :
    ∃ lead, others = lead ++ .word reference.table :: rest := by
  obtain ⟨place, start, led⟩ := Option.bind_eq_some_iff.mp found
  obtain ⟨words, rfl⟩ := expecting_of_started? start
  exact eq_append_of_reference? led

theorem exists_rename_word (tame : Tame change) (place : Place) (letters : Text)
    (others : List Token) :
    ∃ letters',
      rename change place (.word letters :: others) =
        .word letters' ::
          rename change (after place (.word letters) (leadingMark others)) others ∧
      ∀ next, started? (.word letters') next = started? (.word letters) next := by
  cases target : target? place (.word letters) (leadingMark others) with
  | none => exact ⟨letters, rename_of_no_target change target, fun _ => rfl⟩
  | some name =>
      cases eq_word_of_target? target
      exact ⟨change letters, rename_of_target? change target, tame.started? letters⟩

theorem carries_referenceAt? (named : ∀ name, isName (change name) = isName name)
    {letters letters' : Text}
    (same : ∀ next, started? (.word letters') next = started? (.word letters) next)
    (place : Place) (others : List Token) :
    Carries change (referenceAt? letters others)
      (referenceAt? letters'
        (rename change (after place (.word letters) (leadingMark others)) others)) := by
  rw [referenceAt?, referenceAt?, leadingMark_rename, same]
  cases start : started? (.word letters) (leadingMark others) with
  | none => rfl
  | some started =>
      obtain ⟨words, rfl⟩ := expecting_of_started? start
      have placed : after place (.word letters) (leadingMark others) = .expecting words := by
        rw [after, start]
        rfl
      rw [placed]
      exact carries_reference? named (regular_of_started? start) others

theorem followedReference_of_border (before : Option Char) {text : Text}
    (border : isWordAt text.head? = false) : followedReference before text = none := by
  rw [followedReference, finder_of_border before border]
  rfl

theorem followedReference_spell {letters : Text} {others : List Token}
    (proper : Proper (.word letters :: others)) {before : Option Char}
    (border : isWordAt before = false) :
    followedReference before (letters ++ spell others) =
      (referenceAt? letters others).map fun found =>
        ((found.1, (spell found.2).head?), spell found.2) := by
  rw [followedReference, finder_spell proper border, referenceAt?]
  cases started? (.word letters) (leadingMark others) with
  | none => rfl
  | some place => rw [Option.bind_some, Option.map_map, Option.bind_some]; rfl

theorem startsAtBorder_followedReference : followedReference.StartsAtBorder := by
  intro before text inside
  rw [followedReference, startsAtBorder_finder before text inside]
  rfl

theorem findAllFrom_reference {α : Type} {find : Finder α} {letters body rest : Text}
    (nonempty : letters ≠ []) {before : Option Char} {value : α}
    (found : find before (letters ++ (body ++ rest)) = some (value, rest)) :
    find.findAllFrom before (letters ++ (body ++ rest)) =
      value :: find.findAllFrom (lastOr before (letters ++ body)) rest := by
  obtain ⟨c, letters, rfl⟩ := List.exists_cons_of_ne_nil nonempty
  have split : c :: letters ++ (body ++ rest) = c :: ((letters ++ body) ++ rest) := by simp
  rw [split] at found ⊢
  rw [Finder.findAllFrom_found (letters ++ body) rest found, List.cons_append, lastOr_cons]

private theorem findAllFrom_clause {letters : Text} {others rest : List Token}
    (proper : Proper (.word letters :: others)) {before : Option Char}
    (border : isWordAt before = false) {reference : TableReference}
    (found : referenceAt? letters others = some (reference, rest)) :
    ∃ last, followedReference.findAllFrom before (letters ++ spell others) =
      (reference, leadingMark rest) :: followedReference.findAllFrom last (spell rest) := by
  obtain ⟨lead, parts⟩ := eq_append_of_referenceAt? found
  have separate : opensWithWord rest = false := by
    have later : Proper (.word reference.table :: rest) :=
      Proper.of_append (parts ▸ proper.tail)
    exact later.separate
  have split : spell others = (spell lead ++ reference.table) ++ spell rest := by
    rw [parts, spell_append, spell_cons, Token.spelling, List.append_assoc]
  have search : followedReference before (letters ++ ((spell lead ++ reference.table) ++
      spell rest)) = some ((reference, leadingMark rest), spell rest) := by
    rw [← split, followedReference_spell proper border, found, Option.map_some,
      head?_spell_of_separate separate]
  have nonempty : letters ≠ [] := by
    cases proper with
    | word nonempty => exact nonempty
  exact ⟨_, by rw [split, findAllFrom_reference nonempty search]⟩

private theorem findAllFrom_idle {letters : Text} {others : List Token}
    (proper : Proper (.word letters :: others)) {before : Option Char}
    (border : isWordAt before = false) (idle : referenceAt? letters others = none) :
    followedReference.findAllFrom before (letters ++ spell others) =
      followedReference.findAllFrom (lastOr before letters) (spell others) := by
  have silent : followedReference before (letters ++ spell others) = none := by
    rw [followedReference_spell proper border, idle]
    rfl
  cases proper with
  | word nonempty isWord =>
      exact Finder.findAllFrom_word startsAtBorder_followedReference nonempty isWord silent

/-- The finds in a renamed text are the finds in the text, carried through the
renaming.  The scan may stand behind any characters, as long as they end no word,
and the renaming at any place. -/
theorem findAllFrom_rename (tame : Tame change)
    (named : ∀ name, isName (change name) = isName name) {list : List Token}
    (proper : Proper list) (place : Place) {before other : Option Char}
    (border : opensWithWord list = true → isWordAt before = false)
    (otherBorder : opensWithWord list = true → isWordAt other = false) :
    followedReference.findAllFrom other (spell (rename change place list)) =
      (followedReference.findAllFrom before (spell list)).map (carried change) := by
  induction count : list.length using Nat.strong_induction_on
    generalizing list place before other with
  | _ bound induction =>
  have whole := proper_rename tame place proper
  cases proper with
  | nil => rfl
  | @mark c others noWord proper =>
      have border : opensWithWord others = true → isWordAt (some c) = false := fun _ => noWord
      have later := induction others.length (by simp [← count]) proper
        (after place (.mark c) (leadingMark others)) border border rfl
      have silent : ∀ before (text : Text), followedReference before (c :: text) = none :=
        fun before text => followedReference_of_border before noWord
      rw [rename_of_no_target change (target?_mark place c _), spell_cons, spell_cons,
        Token.spelling, List.singleton_append, List.singleton_append,
        Finder.findAllFrom_plain (silent _ _), Finder.findAllFrom_plain (silent _ _), later]
  | @word letters others nonempty isWord separate proper =>
      have original := Proper.word nonempty isWord separate proper
      obtain ⟨letters', renamed, same⟩ := exists_rename_word tame place letters others
      have carries := carries_referenceAt? named same place others
      rw [renamed] at whole
      rw [renamed, spell_cons, spell_cons, Token.spelling, Token.spelling]
      cases found : referenceAt? letters others with
      | none =>
          rw [found] at carries
          rw [findAllFrom_idle original (border rfl) found,
            findAllFrom_idle whole (otherBorder rfl) carries]
          exact induction others.length (by simp [← count]) proper _
            (by simp [separate]) (by simp [separate]) rfl
      | some pair =>
          obtain ⟨reference, rest⟩ := pair
          rw [found] at carries
          obtain ⟨later, refound⟩ := carries
          obtain ⟨lead, parts⟩ := eq_append_of_referenceAt? found
          have restProper : Proper (.word reference.table :: rest) :=
            Proper.of_append (parts ▸ proper)
          have shorter : rest.length < bound := by
            rw [← count, parts]
            simp only [List.length_cons, List.length_append]
            omega
          obtain ⟨last, finds⟩ := findAllFrom_clause original (border rfl) found
          obtain ⟨last', refinds⟩ := findAllFrom_clause whole (otherBorder rfl) refound
          have separate : opensWithWord rest = false := restProper.separate
          rw [finds, refinds, List.map_cons, leadingMark_rename,
            induction rest.length shorter restProper.tail later
              (by simp [separate]) (by simp [separate]) rfl]
          congr 1
          rw [carried]
          split <;> rfl

end Rename

section Names

variable {α β : Type} [BEq α] [LawfulBEq α] [BEq β] [LawfulBEq β]

private theorem filter_eraseDups (keep : α → Bool) (list : List α) :
    list.eraseDups.filter keep = (list.filter keep).eraseDups := by
  induction size : list.length using Nat.strong_induction_on generalizing list with
  | _ bound induction =>
  cases list with
  | nil => rfl
  | cons item others =>
      have shorter : (others.filter fun other => !other == item).length < bound := by
        rw [← size, List.length_cons]
        exact Nat.lt_succ_of_le (List.length_filter_le _ _)
      have later := induction _ shorter (others.filter fun other => !other == item) rfl
      rw [List.eraseDups_cons, List.filter_cons, List.filter_cons, later]
      split
      · rw [List.eraseDups_cons, List.filter_comm]
      next dropped =>
        congr 1
        rw [List.filter_filter]
        apply List.filter_congr
        intro other _
        by_cases same : other = item
        · simp [same, dropped]
        · simp [same]

/-- Repetitions may be dropped before a change of all items or only after it. -/
theorem eraseDups_map_eraseDups (change : α → β) (list : List α) :
    (list.eraseDups.map change).eraseDups = (list.map change).eraseDups := by
  induction size : list.length using Nat.strong_induction_on generalizing list with
  | _ bound induction =>
  cases list with
  | nil => rfl
  | cons item others =>
      let fresh : α → Bool := fun other => !change other == change item
      have shorter : (others.filter fresh).length < bound := by
        rw [← size, List.length_cons]
        exact Nat.lt_succ_of_le (List.length_filter_le _ _)
      have once : (others.filter fun other => !other == item).filter fresh =
          others.filter fresh := by
        rw [List.filter_filter]
        apply List.filter_congr
        intro other _
        by_cases same : other = item
        · simp [fresh, same]
        · simp [same]
      have later := induction _ shorter (others.filter fresh) rfl
      rw [List.eraseDups_cons, List.map_cons, List.eraseDups_cons, List.map_cons,
        List.eraseDups_cons, List.filter_map, List.filter_map]
      congr 1
      change ((List.filter fresh _).map change).eraseDups =
        ((others.filter fresh).map change).eraseDups
      rw [filter_eraseDups, once, later]

end Names

theorem tableNames_eq (sql : Text) :
    tableNames sql = ((TableReference.all sql).map (·.table)).eraseDups := by
  have general : ∀ (references : List TableReference) (names : List Text),
      references.foldl (fun names reference =>
          if reference.isReserved || names.contains reference.table then names
          else names ++ [reference.table]) names =
        names ++ (((references.filter fun reference => !reference.isReserved).map
          (·.table)).removeAll names).eraseDups := by
    intro references
    induction references with
    | nil => intro names; simp [List.removeAll]
    | cons reference references induction =>
        intro names
        rw [List.foldl_cons, induction, List.filter_cons]
        cases reserved : reference.isReserved with
        | true => simp
        | false =>
            by_cases listed : reference.table ∈ names
            · simp [List.cons_removeAll, listed]
            · have both : ∀ others : List Text,
                  others.removeAll (names ++ [reference.table]) =
                    (others.removeAll names).filter fun other =>
                      !other == reference.table := by
                intro others
                rw [List.removeAll, List.removeAll, List.filter_filter]
                apply List.filter_congr
                intro other _
                simp [Bool.beq_eq_decide_eq, Bool.and_comm]
              simp [List.cons_removeAll, listed, both, List.eraseDups_cons]
  have whole := general (TableReference.finder.findAll sql) []
  rwa [List.nil_append, List.removeAll_nil] at whole

/-- The characters that follow the references of a text. -/
def followers (sql : Text) : List (Option Char) :=
  (followedReference.findAll sql).map Prod.snd

theorem findAll_finder (sql : Text) :
    TableReference.finder.findAll sql = (followedReference.findAll sql).map Prod.fst := by
  apply Finder.findAllFrom_map
  intro before text
  rw [followedReference, Option.map_map]
  exact Option.map_id.symm ▸ rfl

private theorem isReserved_retarget {name suffix : Text} (plain : PlainName name)
    (word : IsAsciiWord suffix) (shows : ShowsDigit suffix) (reference : TableReference) :
    TableReference.isReserved
        { reference with table := retarget name (name ++ suffix) reference.table } =
      reference.isReserved := by
  rw [TableReference.isReserved, TableReference.isReserved, retarget]
  split
  next same =>
    have before := lower_not_mem_reservedWords plain.ascii plain.free same
    have behind := plain.lower_append_not_mem word shows
    simp [before, behind]
  next => rfl

private theorem isName_retarget {name suffix : Text} (plain : PlainName name)
    (word : IsAsciiWord suffix) (other : Text) :
    isName (retarget name (name ++ suffix) other) = isName other := by
  rw [retarget]
  split
  next same => rw [isName_of_folded same plain.isName, plain.isName_append word]
  next => rfl

/-- Listing the tables of a text in which a table is renamed gives the tables of the
text with that table renamed, however it is spelled, and without the repetitions
that the renaming makes.  A name before a dot is listed and not renamed, so that no
reference may be followed by one. -/
theorem tableNames_renameTable {name suffix sql : Text} (plain : PlainName name)
    (word : IsAsciiWord suffix) (shows : ShowsDigit suffix)
    (undotted : some '.' ∉ followers sql) :
    tableNames (renameTable name (name ++ suffix) sql) =
      ((tableNames sql).map (retarget name (name ++ suffix))).eraseDups := by
  have tame : Tame (retarget name (name ++ suffix)) :=
    (renamable_of_showsDigit plain.wordlike plain.startsClause shows).tame
      fun c member => (word c member).2
  have start : opensWithWord (tokens sql) = true → isWordAt none = false := fun _ => rfl
  have finds : followedReference.findAll (renameTable name (name ++ suffix) sql) =
      (followedReference.findAll sql).map (carried (retarget name (name ++ suffix))) := by
    rw [renameTable_eq plain.wordlike plain.startsClause, Finder.findAll_eq,
      findAllFrom_rename tame (isName_retarget plain word) (proper_tokens sql) .elsewhere
        start start, spell_tokens, ← Finder.findAll_eq]
  have references : TableReference.finder.findAll (renameTable name (name ++ suffix) sql) =
      (TableReference.finder.findAll sql).map fun reference =>
        { reference with table := retarget name (name ++ suffix) reference.table } := by
    rw [findAll_finder, findAll_finder, finds, List.map_map, List.map_map]
    apply List.map_congr_left
    intro found member
    have follower : found.2 ≠ some '.' := by
      intro dot
      exact undotted (dot ▸ List.mem_map_of_mem member)
    simp [carried, follower]
  rw [tableNames_eq, tableNames_eq, eraseDups_map_eraseDups, TableReference.all,
    TableReference.all, references, List.filter_map, List.map_map, List.map_map]
  congr 2
  apply List.filter_congr
  intro reference _
  simp only [Function.comp_apply, isReserved_retarget plain word shows]

/-- Spellings, a schema, a name that is already there, and a keyword in the place of a
name, behind which a name is renamed that is not listed. -/
theorem tableNames_renameTable_orders :
    PlainName "orders" ∧ IsAsciiWord "_1" ∧ ShowsDigit "_1" ∧
    some '.' ∉ followers "FROM shop.Orders JOIN users JOIN orders_1 JOIN from ORDERS" ∧
    renameTable "orders" "orders_1" "FROM shop.Orders JOIN users JOIN orders_1 JOIN from ORDERS" =
      "FROM shop.orders_1 JOIN users JOIN orders_1 JOIN from orders_1" ∧
    tableNames "FROM shop.orders_1 JOIN users JOIN orders_1 JOIN from orders_1" =
      (["orders_1", "users", "orders_1"] : List Text).eraseDups := by
  have plain : PlainName "orders" := by
    refine ⟨by decide, ?_, by decide⟩
    exact List.all_eq_true.mp (by decide)
  have word : IsAsciiWord "_1" := by
    intro c member
    have both : (("_1" : Text).all fun c => isAscii c && isWord c) = true := by decide
    simpa using List.all_eq_true.mp both c member
  have shows : ShowsDigit "_1" := ⟨'1', by decide, by decide⟩
  have undotted : some '.' ∉
      followers "FROM shop.Orders JOIN users JOIN orders_1 JOIN from ORDERS" := by
    decide
  have renamed : renameTable "orders" "orders_1"
      "FROM shop.Orders JOIN users JOIN orders_1 JOIN from ORDERS" =
        "FROM shop.orders_1 JOIN users JOIN orders_1 JOIN from orders_1" := by
    decide
  have listed : (tableNames
      "FROM shop.Orders JOIN users JOIN orders_1 JOIN from ORDERS").map
        (retarget "orders" "orders_1") = (["orders_1", "users", "orders_1"] : List Text) := by
    decide
  refine ⟨plain, word, shows, undotted, renamed, ?_⟩
  rw [← renamed, ← listed]
  exact tableNames_renameTable plain word shows undotted

end SqlFanout.Sql
