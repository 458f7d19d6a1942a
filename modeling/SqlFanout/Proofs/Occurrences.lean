import Mathlib.Data.List.Zip
import SqlFanout.Proofs.PlainNames
import SqlFanout.Proofs.SelectTokens

/-!
# Where a table occurs

Whether a table occurs at a place of a text is told by what stands before the
place and what stands behind it: the text before it ends with the keywords of a
table clause, blanks and perhaps a schema, and the text behind it begins with the
name.  No scan takes part in this.  Renaming a table puts the new name at these
places and leaves every other character alone
(`renameTable_eq_replaceOccurrences`).
-/

namespace SqlFanout.Sql

open Text

/-- Words one behind the other, in any spelling and with blanks between them. -/
inductive SpellsPhrase : List Text → Text → Prop where
  | single {word letters : Text} (same : folded letters = folded word) :
      SpellsPhrase [word] letters
  | more {word letters blanks text : Text} {words : List Text}
      (same : folded letters = folded word) (nonempty : blanks ≠ [])
      (blank : ∀ c ∈ blanks, isBlank c = true) (later : SpellsPhrase words text) :
      SpellsPhrase (word :: words) (letters ++ (blanks ++ text))

/-- The text ends with the keywords of a table clause and blanks.  The keywords
start at a word boundary: the character before them, if there is one, is no word
character. -/
inductive EndsInClause : Text → Prop where
  | intro {before keywords blanks : Text} {words : List Text} (clause : words ∈ tableClauses)
      (phrase : SpellsPhrase words keywords) (border : isWordAt before.getLast? = false)
      (nonempty : blanks ≠ []) (blank : ∀ c ∈ blanks, isBlank c = true) :
      EndsInClause (before ++ (keywords ++ blanks))

/-- The name of a table may follow the text: it ends in a table clause, or in one
and a schema with its dot. -/
inductive LeadsToTable (isSchema : Text → Prop) : Text → Prop where
  | clause {leading : Text} (ends : EndsInClause leading) : LeadsToTable isSchema leading
  | schema {leading word : Text} (ends : EndsInClause leading) (schema : isSchema word) :
      LeadsToTable isSchema (leading ++ (word ++ ['.']))

/-- The text begins with the name of a table, in any spelling, and neither a word
character nor a dot follows the name. -/
def StartsWithName (table text : Text) : Prop :=
  ∃ name rest, text = name ++ rest ∧ folded name = folded table ∧
    isWordAt rest.head? = false ∧ rest.head? ≠ some '.'

/-- The table occurs between the two parts of a text. -/
def OccursBetween (isSchema : Text → Prop) (table leading text : Text) : Prop :=
  LeadsToTable isSchema leading ∧ StartsWithName table text

/-- The table occurs at an earlier place and reaches over the place between the two
parts. -/
def ReachesOver (isSchema : Text → Prop) (table leading text : Text) : Prop :=
  ∃ front name, leading = front ++ name ∧ name ≠ [] ∧ name.length < table.length ∧
    OccursBetween isSchema table front (name ++ text)

open Classical in
/-- A text that stands behind `leading`, character by character: where the table
occurs the replacement is put in, the characters of its name are left out, and all
others are kept. -/
noncomputable def replaceFrom (isSchema : Text → Prop) (table replacement leading : Text) :
    Text → Text
  | [] => []
  | c :: rest =>
      (if OccursBetween isSchema table leading (c :: rest) then replacement
        else if ReachesOver isSchema table leading (c :: rest) then []
        else [c]) ++ replaceFrom isSchema table replacement (leading ++ [c]) rest

/-- The text with every occurrence of the table replaced. -/
noncomputable def replaceOccurrences (isSchema : Text → Prop)
    (table replacement sql : Text) : Text :=
  replaceFrom isSchema table replacement [] sql

theorem SpellsPhrase.append_word {words : List Text} {keywords : Text}
    (phrase : SpellsPhrase words keywords) {word letters blanks : Text}
    (same : folded letters = folded word) (nonempty : blanks ≠ [])
    (blank : ∀ c ∈ blanks, isBlank c = true) :
    SpellsPhrase (words ++ [word]) (keywords ++ (blanks ++ letters)) := by
  induction phrase with
  | single first => exact .more first nonempty blank (.single same)
  | @more firstWord first gap text words firstSame gapNonempty gapBlank later induction =>
      rw [List.append_assoc, List.append_assoc]
      exact .more firstSame gapNonempty gapBlank induction

/-- What the text before a place of the machine looks like, and what follows. -/
def Place.Shows (leading : Text) (next : Option Char) : Place → Prop
  | .elsewhere => True
  | .expecting words =>
      ∃ before keywords blanks done, leading = before ++ (keywords ++ blanks) ∧
        done ++ words ∈ tableClauses ∧ SpellsPhrase done keywords ∧
        isWordAt before.getLast? = false ∧ (∀ c ∈ blanks, isBlank c = true) ∧
        (blanks = [] → next.any isBlank = true)
  | .schema => ∃ front word, leading = front ++ word ∧ EndsInClause front ∧
      isName word = true
  | .qualified => ∃ front word, leading = front ++ (word ++ ['.']) ∧ EndsInClause front ∧
      isName word = true

theorem Place.Shows.endsInClause {leading : Text}
    (shows : Place.Shows leading none (.expecting [])) : EndsInClause leading := by
  obtain ⟨before, keywords, blanks, done, rfl, clause, phrase, border, blank, gap⟩ := shows
  rw [List.append_nil] at clause
  refine .intro clause phrase border ?_ blank
  intro empty
  cases gap empty

theorem Place.Shows.started {leading : Text} {letters : Text} {next : Option Char}
    {place : Place} (border : isWordAt leading.getLast? = false)
    (start : started? (.word letters) next = some place) :
    place.Shows (leading ++ letters) next := by
  obtain ⟨words, clause, step⟩ := List.exists_of_findSome?_eq_some start
  obtain ⟨word, others, rfl, -⟩ := keyword_cases clause
  rw [resumed?] at step
  split at step
  next keyword =>
    cases step
    refine ⟨leading, letters, [], [word], by simp, clause, .single keyword.1, border,
      by simp, fun _ => keyword.2⟩
  next => cases step

theorem Place.Shows.resumed {leading : Text} {token : Token} {others : List Token}
    {place later : Place} (shows : place.Shows leading (leadingMark (token :: others)))
    (step : resumed? place token (leadingMark others) = some later) :
    later.Shows (leading ++ token.spelling) (leadingMark others) := by
  cases resumes_of_resumed? step with
  | @blank words c blankMark =>
      obtain ⟨before, keywords, blanks, done, rfl, clause, phrase, border, blank, -⟩ := shows
      refine ⟨before, keywords, blanks ++ [c], done, by simp [Token.spelling], clause, phrase,
        border, ?_, by simp⟩
      intro d member
      rcases List.mem_append.mp member with early | last
      · exact blank d early
      · exact List.mem_singleton.mp last ▸ blankMark
  | @schema letters dotted name => exact ⟨leading, letters, rfl, shows.endsInClause, name⟩
  | @keyword word letters words same apart =>
      obtain ⟨before, keywords, blanks, done, rfl, clause, phrase, border, blank, gap⟩ := shows
      have nonempty : blanks ≠ [] := by
        intro empty
        cases gap empty
      refine ⟨before, keywords ++ (blanks ++ letters), [], done ++ [word], ?_, ?_,
        phrase.append_word same nonempty blank, border, by simp, fun _ => apart⟩
      · simp [Token.spelling]
      · simpa using clause
  | dot =>
      obtain ⟨front, word, rfl, ends, name⟩ := shows
      exact ⟨front, word, by simp [Token.spelling], ends, name⟩

theorem Place.Shows.after {leading : Text} {token : Token} {others : List Token}
    {place : Place} (shows : place.Shows leading (leadingMark (token :: others)))
    (border : opensWithWord (token :: others) = true → isWordAt leading.getLast? = false) :
    (Sql.after place token (leadingMark others)).Shows (leading ++ token.spelling)
      (leadingMark others) := by
  rw [Sql.after]
  cases start : started? token (leadingMark others) with
  | some started =>
      cases token with
      | mark => cases start
      | word letters => exact Place.Shows.started (border rfl) start
  | none =>
      cases step : resumed? place token (leadingMark others) with
      | some later => exact shows.resumed step
      | none => trivial

theorem Place.Shows.behind {left ahead : List Token} (proper : Proper (left ++ ahead))
    {place : Place} {leading : Text} (shows : place.Shows leading (leadingMark (left ++ ahead)))
    (border : opensWithWord (left ++ ahead) = true → isWordAt leading.getLast? = false) :
    (place.behind left ahead).Shows (leading ++ spell left) (leadingMark ahead) := by
  induction left generalizing place leading with
  | nil =>
      rw [spell_nil, List.append_nil]
      exact shows
  | cons token left induction =>
      rw [List.cons_append] at proper shows border
      rw [spell_cons, ← List.append_assoc]
      refine induction proper.tail (shows.after border) ?_
      intro opens
      cases proper with
      | mark noWord =>
          rw [Token.spelling, List.getLast?_concat]
          exact noWord
      | word _ _ separate => simp [separate] at opens

theorem Place.behind_append (place : Place) (left right ahead : List Token) :
    place.behind (left ++ right) ahead =
      (place.behind left (right ++ ahead)).behind right ahead := by
  induction left generalizing place with
  | nil => rfl
  | cons token left induction =>
      rw [List.cons_append, behind, behind, induction, List.append_assoc]

theorem Place.behind_blanks (words : List Text) {blanks : Text}
    (blank : ∀ c ∈ blanks, isBlank c = true) (rest ahead : List Token) :
    (expecting words).behind (blanks.map .mark ++ rest) ahead =
      (expecting words).behind rest ahead := by
  induction blanks with
  | nil => rfl
  | cons c blanks induction =>
      have step : Sql.after (expecting words) (.mark c)
          (leadingMark (blanks.map .mark ++ rest ++ ahead)) = expecting words := by
        simp [Sql.after, started?, resumed?, blank c List.mem_cons_self]
      rw [List.map_cons, List.cons_append, behind, step]
      exact induction fun d member => blank d (List.mem_cons_of_mem c member)

/-- A keyword and the blanks behind it, read at a place that the keyword leads on
from. -/
theorem Place.behind_keyword {place : Place} {words : List Text} {letters blanks : Text}
    (wordlike : Wordlike letters) (nonempty : blanks ≠ [])
    (blank : ∀ c ∈ blanks, isBlank c = true)
    (accepts : ∀ next, next.any isBlank = true →
      Sql.after place (.word letters) next = expecting words)
    (text : Text) (ahead : List Token) :
    place.behind (tokens (letters ++ (blanks ++ text))) ahead =
      (expecting words).behind (tokens text) ahead := by
  have marks := tokens_marks_append (fun c member => isWord_of_isBlank (blank c member)) text
  obtain ⟨c, blanks, rfl⟩ := List.exists_cons_of_ne_nil nonempty
  have separate : opensWithWord (tokens (c :: blanks ++ text)) = false := by
    rw [marks]
    rfl
  rw [tokens_append_word wordlike.nonempty wordlike.isWord separate, marks, behind]
  rw [accepts _ (by simpa [leadingMark] using blank c List.mem_cons_self)]
  exact behind_blanks words blank (tokens text) ahead

theorem after_of_keyword {word letters : Text} {words : List Text}
    (clause : word :: words ∈ tableClauses) (same : folded letters = folded word)
    (place : Place) (next : Option Char) (apart : next.any isBlank = true) :
    after place (.word letters) next = .expecting words := by
  have starts : ∀ words ∈ tableClauses, ∀ word ∈ words.head?,
      started? (.word word) (some ' ') = some (.expecting words.tail) := by
    decide
  have blank : next.any isBlank = (some ' ').any isBlank := apart
  rw [after, started?_congr same blank, starts _ clause word rfl]
  rfl

theorem SpellsPhrase.behind {words : List Text} {keywords : Text}
    (phrase : SpellsPhrase words keywords) (wordlike : ∀ word ∈ words, Wordlike word)
    (regular : words.tail ∈ tableClauses.map List.tail) {place : Place}
    (accepts : ∀ letters next, folded letters = folded (words.headD []) →
      next.any isBlank = true → after place (.word letters) next = .expecting words.tail)
    {blanks : Text} (nonempty : blanks ≠ []) (blank : ∀ c ∈ blanks, isBlank c = true)
    (ahead : List Token) :
    place.behind (tokens (keywords ++ blanks)) ahead = .expecting [] := by
  induction phrase generalizing place with
  | @single word letters same =>
      have spelled := (wordlike word List.mem_cons_self).of_folded same.symm
      have step := Place.behind_keyword spelled nonempty blank
        (fun next => accepts letters next same) [] ahead
      rwa [List.append_nil] at step
  | @more word letters gap text words same gapNonempty gapBlank later induction =>
      have spelled := (wordlike word List.mem_cons_self).of_folded same.symm
      have closed : ∀ words ∈ tableClauses.map List.tail,
          words.tail ∈ tableClauses.map List.tail := by
        decide
      rw [List.append_assoc, List.append_assoc,
        Place.behind_keyword spelled gapNonempty gapBlank fun next => accepts letters next same]
      refine induction (fun other member => wordlike other (List.mem_cons_of_mem word member))
        (closed _ regular) fun letters next same apart => ?_
      have expected : Place.Regular (.expecting words) := regular
      cases later with
      | single => exact expected.after_eq (if_pos ⟨same, apart⟩)
      | more => exact expected.after_eq (if_pos ⟨same, apart⟩)

theorem EndsInClause.behind {leading : Text} (ends : EndsInClause leading) (place : Place)
    (ahead : List Token) : place.behind (tokens leading) ahead = .expecting [] := by
  obtain ⟨clause, phrase, border, nonempty, blank⟩ := ends
  obtain ⟨word, words, rfl, wordlike⟩ := keyword_cases clause
  have regular : words ∈ tableClauses.map List.tail := List.mem_map_of_mem clause
  rw [tokens_append_of_border border, Place.behind_append]
  exact phrase.behind wordlike regular
    (fun letters next same => after_of_keyword clause same _ next) nonempty blank ahead

theorem EndsInClause.isBlank_getLast? {leading : Text} (ends : EndsInClause leading) :
    leading.getLast?.any isBlank = true := by
  obtain ⟨_, _, _, nonempty, blank⟩ := ends
  rw [← List.append_assoc, List.getLast?_append_of_ne_nil _ nonempty,
    List.getLast?_eq_some_getLast nonempty]
  exact blank _ (List.getLast_mem nonempty)

theorem EndsInClause.isWordAt_getLast? {leading : Text} (ends : EndsInClause leading) :
    isWordAt leading.getLast? = false := by
  have blank := ends.isBlank_getLast?
  cases last : leading.getLast? with
  | none => rfl
  | some c =>
      rw [last] at blank
      exact isWord_of_isBlank blank

theorem LeadsToTable.isWordAt_getLast? {isSchema : Text → Prop} {leading : Text}
    (leads : LeadsToTable isSchema leading) : isWordAt leading.getLast? = false := by
  cases leads with
  | clause ends => exact ends.isWordAt_getLast?
  | schema =>
      rw [← List.append_assoc, List.getLast?_concat]
      decide

theorem LeadsToTable.behind {leading : Text}
    (leads : LeadsToTable (fun word => isName word = true) leading) (place : Place)
    (ahead : List Token) :
    place.behind (tokens leading) ahead = .expecting [] ∨
      place.behind (tokens leading) ahead = .qualified := by
  cases leads with
  | clause ends => exact .inl (ends.behind place ahead)
  | @schema front word ends name =>
      have wordlike := wordlike_of_isName name
      have split : tokens (word ++ ['.']) = [.word word, .mark '.'] := by
        rw [tokens_append_word wordlike.nonempty wordlike.isWord (by decide)]
        rfl
      have regular : Place.Regular (.expecting []) := by
        change [] ∈ tableClauses.map List.tail
        decide
      have step : after (.expecting []) (.word word) (some '.') = .schema :=
        regular.after_eq (if_pos ⟨rfl, name⟩)
      right
      rw [tokens_append_of_border ends.isWordAt_getLast?, Place.behind_append, ends.behind,
        split, Place.behind, List.singleton_append, leadingMark, step]
      rfl

section Tokens

variable {table : Text} {left others : List Token} {letters : Text}

/-- Before a word, the text leads to a table exactly if the machine is at a place
where a name is to come. -/
theorem leadsToTable_iff (proper : Proper (left ++ .word letters :: others)) :
    LeadsToTable (fun word => isName word = true) (spell left) ↔
      Place.elsewhere.behind left (.word letters :: others) = .expecting [] ∨
        Place.elsewhere.behind left (.word letters :: others) = .qualified := by
  constructor
  · intro leads
    have place := leads.behind .elsewhere (.word letters :: others)
    rwa [tokens_spell proper.of_append_left] at place
  · have shows : (Place.elsewhere.behind left (.word letters :: others)).Shows (spell left)
        none :=
      @Place.Shows.behind left _ proper .elsewhere [] trivial fun _ => rfl
    rintro (expecting | qualified)
    · rw [expecting] at shows
      exact .clause shows.endsInClause
    · rw [qualified] at shows
      obtain ⟨front, word, split, ends, name⟩ := shows
      rw [split]
      exact .schema ends name

theorem startsWithName_iff (wordlike : Wordlike table)
    (proper : Proper (.word letters :: others)) :
    StartsWithName table (letters ++ spell others) ↔
      folded letters = folded table ∧ leadingMark others ≠ some '.' := by
  have search := afterName?_spell wordlike none proper
  rw [afterName?_eq wordlike] at search
  constructor
  · rintro ⟨name, rest, split, same, border, undotted⟩
    rw [split, afterFolded?_of_folded rest same, Option.bind_some,
      if_pos ⟨border, undotted⟩] at search
    by_contra missed
    rw [if_neg missed] at search
    cases search
  · rintro ⟨same, undotted⟩
    refine ⟨letters, spell others, rfl, same, ?_, ?_⟩
    · exact isWordAt_spell_of_separate proper.tail proper.separate
    · rwa [head?_spell_of_separate proper.separate]

theorem target?_word_iff (place : Place) (next : Option Char) :
    target? place (.word letters) next = some letters ↔
      (place = .expecting [] ∨ place = .qualified) ∧ next ≠ some '.' := by
  unfold target?
  split <;> simp_all

theorem occursBetween_iff (wordlike : Wordlike table)
    (proper : Proper (left ++ .word letters :: others)) :
    OccursBetween (fun word => isName word = true) table (spell left)
        (letters ++ spell others) ↔
      target? (Place.elsewhere.behind left (.word letters :: others)) (.word letters)
          (leadingMark others) = some letters ∧
        folded letters = folded table := by
  rw [OccursBetween, leadsToTable_iff proper, startsWithName_iff wordlike proper.of_append,
    target?_word_iff]
  tauto

end Tokens

section Replace

variable {isSchema : Text → Prop} {table replacement : Text}

theorem StartsWithName.isWordAt_head? (wordlike : Wordlike table) {text : Text}
    (starts : StartsWithName table text) : isWordAt text.head? = true := by
  obtain ⟨name, rest, rfl, same, -, -⟩ := starts
  have spelled := wordlike.of_folded same.symm
  exact isWordAt_head?_append spelled.nonempty spelled.isWord

private theorem exists_append_of_length_le {first second left right : Text}
    (split : first ++ left = second ++ right) (short : first.length ≤ second.length) :
    ∃ more, second = first ++ more ∧ left = more ++ right := by
  have inside : first <+: second :=
    List.prefix_of_prefix_length_le ⟨left, split⟩ (List.prefix_append second right) short
  obtain ⟨more, rfl⟩ := inside
  rw [List.append_assoc] at split
  exact ⟨more, rfl, List.append_cancel_left split⟩

private theorem isWordAt_getLast?_append {letters : Text} (nonempty : letters ≠ [])
    (isWord : ∀ c ∈ letters, isWord c = true) (leading : Text) :
    isWordAt (leading ++ letters).getLast? = true := by
  rw [List.getLast?_append_of_ne_nil _ nonempty, List.getLast?_eq_some_getLast nonempty]
  exact isWord _ (List.getLast_mem nonempty)

theorem ReachesOver.isWord (wordlike : Wordlike table) {leading text : Text}
    (reaches : ReachesOver isSchema table leading text) :
    isWordAt leading.getLast? = true ∧ isWordAt text.head? = true := by
  obtain ⟨front, part, rfl, nonempty, short, -, name, rest, split, same, -, -⟩ := reaches
  have letters := (wordlike.of_folded same.symm).isWord
  rw [← length_eq_of_folded same] at short
  obtain ⟨more, rfl, rfl⟩ := exists_append_of_length_le split short.le
  have more_ne : more ≠ [] := by
    rintro rfl
    simp at short
  constructor
  · exact isWordAt_getLast?_append nonempty
      (fun c member => letters c (List.mem_append_left more member)) front
  · exact isWordAt_head?_append more_ne fun c member =>
      letters c (List.mem_append_right part member)

theorem replaceFrom_of_absent {leading text : Text}
    (absent : ∀ front later, leading ++ text = front ++ later →
      ¬ OccursBetween isSchema table front later) :
    replaceFrom isSchema table replacement leading text = text := by
  induction text generalizing leading with
  | nil => rfl
  | cons c rest induction =>
      have apart : ¬ ReachesOver isSchema table leading (c :: rest) := by
        rintro ⟨front, name, rfl, -, -, occurs⟩
        exact absent front (name ++ c :: rest) (List.append_assoc ..) occurs
      rw [replaceFrom, if_neg (absent leading (c :: rest) rfl), if_neg apart,
        induction (by simpa using absent)]
      rfl

theorem replaceFrom_mark (wordlike : Wordlike table) {c : Char} (noWord : isWord c = false)
    (leading rest : Text) :
    replaceFrom isSchema table replacement leading (c :: rest) =
      c :: replaceFrom isSchema table replacement (leading ++ [c]) rest := by
  have absent : ¬ OccursBetween isSchema table leading (c :: rest) := by
    rintro ⟨-, starts⟩
    have letter : isWord c = true := starts.isWordAt_head? wordlike
    simp [noWord] at letter
  have apart : ¬ ReachesOver isSchema table leading (c :: rest) := by
    intro reaches
    have letter : isWord c = true := (reaches.isWord wordlike).2
    simp [noWord] at letter
  rw [replaceFrom, if_neg absent, if_neg apart]
  rfl

/-- A name does not begin behind a word character. -/
theorem not_occursBetween_inside {letters : Text} (nonempty : letters ≠ [])
    (isWord : ∀ c ∈ letters, isWord c = true) (leading text : Text) :
    ¬ OccursBetween isSchema table (leading ++ letters) text := by
  rintro ⟨leads, -⟩
  have last := leads.isWordAt_getLast?
  rw [isWordAt_getLast?_append nonempty isWord leading] at last
  cases last

/-- Inside a word, a name reaches over a place exactly if it occurs at the beginning
of the word. -/
theorem reachesOver_iff (wordlike : Wordlike table) {leading done text : Text}
    (border : isWordAt leading.getLast? = false) (nonempty : done ≠ [])
    (letters : ∀ c ∈ done, isWord c = true) (inside : isWordAt text.head? = true) :
    ReachesOver isSchema table (leading ++ done) text ↔
      OccursBetween isSchema table leading (done ++ text) := by
  constructor
  · rintro ⟨front, part, split, partNonempty, short, occurs⟩
    rcases List.append_eq_append_iff.mp split with ⟨more, rfl, rfl⟩ | ⟨more, rfl, rfl⟩
    · cases more with
      | nil => simpa using occurs
      | cons c more =>
          exact absurd occurs (not_occursBetween_inside (List.cons_ne_nil c more)
            (fun d member => letters d (List.mem_append_left part member)) leading _)
    · cases more with
      | nil => simpa using occurs
      | cons c more =>
          have earlier : ReachesOver isSchema table (front ++ c :: more) (done ++ text) := by
            refine ⟨front, c :: more, rfl, by simp, ?_, by simpa using occurs⟩
            rw [List.length_append] at short
            omega
          rw [(earlier.isWord wordlike).1] at border
          cases border
  · intro occurs
    obtain ⟨-, name, rest, split, same, behind, -⟩ := id occurs
    refine ⟨leading, done, rfl, nonempty, ?_, occurs⟩
    rw [← length_eq_of_folded same]
    by_contra long
    obtain ⟨more, rfl, rfl⟩ := exists_append_of_length_le split.symm (not_lt.mp long)
    cases more with
    | nil => simp [inside] at behind
    | cons c more =>
        have letter : isWord c = true := letters c (by simp)
        simp [isWordAt, letter] at behind

open Classical in
private theorem replaceFrom_inside (wordlike : Wordlike table) {leading : Text}
    (border : isWordAt leading.getLast? = false) {done letters : Text} (nonempty : done ≠ [])
    (doneLetters : ∀ c ∈ done, isWord c = true) (isWord : ∀ c ∈ letters, isWord c = true)
    (text : Text) :
    replaceFrom isSchema table replacement (leading ++ done) (letters ++ text) =
      (if OccursBetween isSchema table leading (done ++ (letters ++ text)) then []
        else letters) ++
      replaceFrom isSchema table replacement (leading ++ (done ++ letters)) text := by
  induction letters generalizing done with
  | nil => simp
  | cons c letters induction =>
      have absent := @not_occursBetween_inside isSchema table done nonempty doneLetters leading
        (c :: (letters ++ text))
      have reaches := @reachesOver_iff isSchema table wordlike leading done
        (c :: (letters ++ text)) border nonempty doneLetters (isWord c List.mem_cons_self)
      have later := @induction (done ++ [c]) (by simp)
        (by
          intro d member
          rcases List.mem_append.mp member with early | last
          · exact doneLetters d early
          · exact isWord d (List.mem_singleton.mp last ▸ List.mem_cons_self))
        fun d member => isWord d (List.mem_cons_of_mem c member)
      rw [List.cons_append, replaceFrom, if_neg absent]
      simp only [List.append_assoc, List.singleton_append] at later ⊢
      rw [later, if_congr reaches rfl rfl]
      split <;> simp

open Classical in
theorem replaceFrom_word (wordlike : Wordlike table) {leading : Text}
    (border : isWordAt leading.getLast? = false) {letters : Text} (nonempty : letters ≠ [])
    (isWord : ∀ c ∈ letters, isWord c = true) (text : Text) :
    replaceFrom isSchema table replacement leading (letters ++ text) =
      (if OccursBetween isSchema table leading (letters ++ text) then replacement
        else letters) ++
      replaceFrom isSchema table replacement (leading ++ letters) text := by
  obtain ⟨c, letters, rfl⟩ := List.exists_cons_of_ne_nil nonempty
  have apart : ¬ ReachesOver isSchema table leading (c :: (letters ++ text)) := by
    intro reaches
    rw [(reaches.isWord wordlike).1] at border
    cases border
  have first : ∀ d ∈ [c], Text.isWord d = true := by
    simpa using isWord c List.mem_cons_self
  rw [List.cons_append, replaceFrom, if_neg apart,
    replaceFrom_inside wordlike border (by simp) first fun d member =>
      isWord d (List.mem_cons_of_mem c member)]
  rw [List.singleton_append, List.singleton_append]
  split <;> simp

end Replace

theorem Place.behind_concat (place : Place) (left : List Token) (token : Token)
    (others : List Token) :
    place.behind (left ++ [token]) others =
      after (place.behind left (token :: others)) token (leadingMark others) := by
  rw [behind_append]
  rfl

theorem isWordAt_getLast?_spell {left others : List Token} {letters : Text}
    (proper : Proper (left ++ .word letters :: others)) :
    isWordAt (spell left).getLast? = false := by
  have general : ∀ (left : List Token) (before : Option Char),
      Proper (left ++ .word letters :: others) →
      (opensWithWord (left ++ .word letters :: others) = true → isWordAt before = false) →
        isWordAt (lastOr before (spell left)) = false := by
    intro left
    induction left with
    | nil => exact fun before _ border => border rfl
    | cons token left induction =>
        intro before proper border
        rw [List.cons_append] at proper
        rw [spell_cons, lastOr_append]
        refine induction _ proper.tail fun opens => ?_
        cases proper with
        | mark noWord => exact noWord
        | word _ _ separate => simp [separate] at opens
  rw [← lastOr_none]
  exact general left none proper fun _ => rfl

section Rename

variable {table : Text}

open Classical in
/-- Reading a word, the machine puts in the new name exactly if the table occurs at the
beginning of the word. -/
theorem spell_rename_word (wordlike : Wordlike table) (replacement : Text)
    {left others : List Token} {letters : Text}
    (proper : Proper (left ++ .word letters :: others)) :
    spell (rename (retarget table replacement)
        (Place.elsewhere.behind left (.word letters :: others)) (.word letters :: others)) =
      (if OccursBetween (fun word => isName word = true) table (spell left)
          (letters ++ spell others) then replacement else letters) ++
        spell (rename (retarget table replacement)
          (after (Place.elsewhere.behind left (.word letters :: others)) (.word letters)
            (leadingMark others)) others) := by
  have occurs := occursBetween_iff wordlike proper
  cases target : target? (Place.elsewhere.behind left (.word letters :: others))
      (.word letters) (leadingMark others) with
  | none =>
      have absent : ¬ OccursBetween (fun word => isName word = true) table (spell left)
          (letters ++ spell others) := by
        intro hit
        rw [target] at occurs
        cases (occurs.mp hit).1
      rw [if_neg absent, rename_of_no_target _ target]
      rfl
  | some name =>
      cases eq_word_of_target? target
      rw [target] at occurs
      rw [rename_of_target? _ target, spell_cons, Token.spelling, retarget]
      by_cases same : folded letters = folded table
      · rw [if_pos (occurs.mpr ⟨rfl, same⟩), if_pos same]
      · rw [if_neg fun hit => same (occurs.mp hit).2, if_neg same]

/-- Character by character, the occurrences of a table are the references that the
machine reads. -/
theorem replaceFrom_spell (wordlike : Wordlike table) (replacement : Text)
    {left list : List Token} (proper : Proper (left ++ list)) :
    replaceFrom (fun word => isName word = true) table replacement (spell left) (spell list) =
      spell (rename (retarget table replacement) (Place.elsewhere.behind left list) list) := by
  induction list generalizing left with
  | nil => rfl
  | cons token others induction =>
      have later : replaceFrom (fun word => isName word = true) table replacement
            (spell left ++ token.spelling) (spell others) =
          spell (rename (retarget table replacement)
            (after (Place.elsewhere.behind left (token :: others)) token (leadingMark others))
            others) := by
        have step := @induction (left ++ [token]) (by simpa using proper)
        rwa [spell_append, spell_cons, spell_nil, List.append_nil, Place.behind_concat] at step
      cases token with
      | mark c =>
          have noWord : isWord c = false := by
            cases proper.of_append with
            | mark noWord => exact noWord
          rw [rename_of_no_target _ (target?_mark _ c _), spell_cons, spell_cons, ← later]
          exact replaceFrom_mark wordlike noWord (spell left) (spell others)
      | word letters =>
          have border := isWordAt_getLast?_spell proper
          obtain ⟨nonempty, isWord⟩ : letters ≠ [] ∧ ∀ c ∈ letters, isWord c = true := by
            cases proper.of_append with
            | word nonempty isWord => exact ⟨nonempty, isWord⟩
          rw [spell_rename_word wordlike replacement proper, ← later]
          exact replaceFrom_word wordlike border nonempty isWord (spell others)

end Rename

/-- A word that is an ASCII name up to case. -/
def SpellsAsciiName (word : Text) : Prop :=
  ∃ name, AsciiName name ∧ folded word = folded name

set_option maxRecDepth 4000 in
private theorem fold_fold {c : Char} (ascii : isAscii (fold c) = true) :
    fold (fold c) = fold c :=
  folded_cases (fun c => fold (fold c) = fold c) (by decide) (by decide) ascii

theorem spellsAsciiName_iff {word : Text} : SpellsAsciiName word ↔ isName word = true := by
  constructor
  · rintro ⟨name, ascii, same⟩
    exact isName_of_folded same ascii.isName
  · intro name
    have letters := (isName_iff.mp name).2
    have ascii : ∀ c ∈ word, isAscii (fold c) = true :=
      fun c member => isAscii_fold_of_isNameChar (letters c member)
    have same : folded (folded word) = folded word := by
      rw [folded, folded, List.map_map]
      exact List.map_congr_left fun c member => fold_fold (ascii c member)
    refine ⟨folded word, ⟨isName_of_folded same name, ?_⟩, same.symm⟩
    intro c member
    obtain ⟨d, listed, rfl⟩ := List.mem_map.mp member
    exact ascii d listed

/-- Renaming a table replaces its occurrences and nothing else.  The table is an ASCII
name that is no keyword of a table clause; the replacement is any text.  A schema
before the table is an ASCII name up to case. -/
theorem renameTable_eq_replaceOccurrences {table : Text} (name : AsciiName table)
    (free : ∀ word ∈ tableClauses.flatten, folded table ≠ folded word)
    (replacement sql : Text) :
    renameTable table replacement sql =
      replaceOccurrences SpellsAsciiName table replacement sql := by
  have idle : startsClause table = false := by
    refine List.any_eq_false.mpr fun words clause started => ?_
    obtain ⟨word, others, rfl, -⟩ := keyword_cases clause
    have same : folded word = folded table := by simpa using started
    exact free word (List.mem_flatten.mpr ⟨_, clause, List.mem_cons_self⟩) same.symm
  have schemas : SpellsAsciiName = fun word => isName word = true :=
    funext fun word => propext spellsAsciiName_iff
  have replaced := @replaceFrom_spell table name.wordlike replacement [] (tokens sql)
    (proper_tokens sql)
  rw [spell_tokens] at replaced
  rw [renameTable_eq name.wordlike idle, replaceOccurrences, schemas]
  exact replaced.symm

/-- A schema in any spelling, runs of blanks, two keywords, and places at which the
name is a schema itself, part of a longer word or in no clause. -/
theorem renameTable_eq_replaceOccurrences_orders :
    AsciiName "orders" ∧ (∀ word ∈ tableClauses.flatten, folded "orders" ≠ folded word) ∧
    replaceOccurrences SpellsAsciiName "orders" "orders_0"
        "delete\nFROM  Shop.ORDERS JOIN orders.items JOIN orders2, orders JOIN orders" =
      "delete\nFROM  Shop.orders_0 JOIN orders.items JOIN orders2, orders JOIN orders_0" := by
  have name : AsciiName "orders" := ⟨by decide, List.all_eq_true.mp (by decide)⟩
  have free : ∀ word ∈ tableClauses.flatten, folded "orders" ≠ folded word := by decide
  refine ⟨name, free, ?_⟩
  rw [← renameTable_eq_replaceOccurrences name free]
  decide

/-- The schema of a reference need not be an ASCII name: the pattern compares letters
without regard to case, and takes the long s for an s. -/
theorem renameTable_takes_long_s :
    AsciiName "orders" ∧ (∀ word ∈ tableClauses.flatten, folded "orders" ≠ folded word) ∧
    renameTable "orders" "orders_0" "SELECT * FROM ſhop.orders" ≠
      replaceOccurrences AsciiName "orders" "orders_0" "SELECT * FROM ſhop.orders" := by
  have renamed : renameTable "orders" "orders_0" "SELECT * FROM ſhop.orders" =
      "SELECT * FROM ſhop.orders_0" := by
    decide
  have kept : replaceOccurrences AsciiName "orders" "orders_0" "SELECT * FROM ſhop.orders" =
      "SELECT * FROM ſhop.orders" := by
    refine replaceFrom_of_absent ?_
    rintro front later split ⟨leads, name, rest, rfl, same, -, -⟩
    have places : ∀ cut ∈ List.zip (List.inits "SELECT * FROM ſhop.orders")
        (List.tails "SELECT * FROM ſhop.orders"),
        folded (cut.2.take 6) = folded "orders" →
          cut.1 = ("SELECT * FROM ſhop." : Text) := by
      decide
    have schemas : ∀ cut ∈ List.zip (List.inits "SELECT * FROM ſhop")
        (List.tails "SELECT * FROM ſhop"),
        cut.1.getLast?.any isBlank = true → cut.2.all isAscii = false := by
      decide
    have place : front = "SELECT * FROM ſhop." := by
      refine places (front, name ++ rest) (List.mem_zip_inits_tails.mpr split.symm) ?_
      have cut : (name ++ rest).take 6 = name := List.take_left' (length_eq_of_folded same)
      rwa [cut]
    cases leads with
    | clause ends =>
        have blank := ends.isBlank_getLast?
        rw [place] at blank
        revert blank
        decide
    | @schema leading word ends schema =>
        rw [← List.append_assoc] at place
        have cut : leading ++ word = "SELECT * FROM ſhop" := List.append_inj_left' place rfl
        have foreign := schemas (leading, word) (List.mem_zip_inits_tails.mpr cut)
          ends.isBlank_getLast?
        rw [List.all_eq_true.mpr schema.ascii] at foreign
        cases foreign
  refine ⟨⟨by decide, List.all_eq_true.mp (by decide)⟩, by decide, ?_⟩
  rw [renamed, kept]
  decide

end SqlFanout.Sql
