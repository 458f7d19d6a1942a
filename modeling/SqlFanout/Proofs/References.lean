import Mathlib.Data.List.Nodup
import Mathlib.Data.List.TakeWhile
import SqlFanout.Proofs.Scanning
import SqlFanout.Proofs.Tokens
import SqlFanout.Sql.TableReference

/-!
# The places where tables are named

The scan for references to one table looks ahead from every keyword.  Here the
same references are told by a machine that reads the tokens of a text once, from
left to right, and remembers only what it has seen of a table clause.  Its state
does not mention the table, so that the places of references are those of the
text and not of a search.  The main result, `referenceFinder_spell`, is that the
search from a word finds what the machine reads on to from there.
-/

namespace SqlFanout.Sql

open Text

/-- How much of a table clause has been read. -/
inductive Place where
  | elsewhere
  /-- Behind keywords, where these further ones and then a name are to come. -/
  | expecting (words : List Text)
  /-- Behind a name that a dot follows. -/
  | schema
  /-- Behind that dot. -/
  | qualified
  deriving DecidableEq

def isName : Text → Bool
  | [] => false
  | c :: rest => isNameStart c && rest.all isNameChar

/-- The name that a token is in the place of a reference.  Here and below, `next`
is the mark behind the token. -/
def target? : Place → Token → Option Char → Option Text
  | .expecting [], .word letters, next => if next = some '.' then none else some letters
  | .qualified, .word letters, next => if next = some '.' then none else some letters
  | _, _, _ => none

/-- How a token carries on the clause that is being read. -/
def resumed? : Place → Token → Option Char → Option Place
  | .expecting words, .mark c, _ => if isBlank c then some (.expecting words) else none
  | .expecting [], .word letters, next =>
      if next = some '.' ∧ isName letters = true then some .schema else none
  | .expecting (word :: words), .word letters, next =>
      if folded letters = folded word ∧ next.any isBlank = true then
        some (.expecting words)
      else none
  | .schema, .mark c, _ => if c = '.' then some .qualified else none
  | _, _, _ => none

/-- The clause that a token is the first keyword of. -/
def started? : Token → Option Char → Option Place
  | .word letters, next =>
      tableClauses.findSome? fun words => resumed? (.expecting words) (.word letters) next
  | .mark _, _ => none

def after (place : Place) (token : Token) (next : Option Char) : Place :=
  ((started? token next).or (resumed? place token next)).getD .elsewhere

@[simp] theorem target?_mark (place : Place) (c : Char) (next : Option Char) :
    target? place (.mark c) next = none := by
  unfold target?
  split <;> simp_all

theorem eq_word_of_target? {place : Place} {token : Token} {next : Option Char}
    {name : Text} (target : target? place token next = some name) :
    token = .word name := by
  unfold target? at target
  split at target <;> simp_all

/-- The ways in which a token carries on a clause. -/
inductive Resumes (next : Option Char) : Place → Token → Place → Prop where
  | blank {words : List Text} {c : Char} (blank : isBlank c = true) :
      Resumes next (.expecting words) (.mark c) (.expecting words)
  | schema {letters : Text} (dotted : next = some '.') (name : isName letters = true) :
      Resumes next (.expecting []) (.word letters) .schema
  | keyword {word letters : Text} {words : List Text} (same : folded letters = folded word)
      (apart : next.any isBlank = true) :
      Resumes next (.expecting (word :: words)) (.word letters) (.expecting words)
  | dot : Resumes next .schema (.mark '.') .qualified

theorem resumes_of_resumed? {place later : Place} {token : Token} {next : Option Char}
    (step : resumed? place token next = some later) : Resumes next place token later := by
  unfold resumed? at step
  split at step
  · split at step <;> cases step
    exact .blank ‹_›
  · split at step <;> cases step
    next dotted => exact .schema dotted.1 dotted.2
  · split at step <;> cases step
    next keyword => exact .keyword keyword.1 keyword.2
  · split at step <;> cases step
    next dot => exact dot ▸ .dot
  · cases step

theorem resumed?_of_target? {place : Place} {token : Token} {next : Option Char}
    {name : Text} (target : target? place token next = some name) :
    resumed? place token next = none := by
  unfold target? at target
  split at target
  · simp_all [resumed?]
  · rfl
  · cases target

/-- A reference that completes the clause being read: the tokens before its name,
the name and the tokens behind it. -/
structure Reading where
  lead : List Token
  name : Text
  rest : List Token

def reading : Place → List Token → Option Reading
  | _, [] => none
  | place, token :: others =>
      match target? place token (leadingMark others) with
      | some name => some ⟨[], name, others⟩
      | none =>
          match resumed? place token (leadingMark others) with
          | some next =>
              (reading next others).map fun found => { found with lead := token :: found.lead }
          | none => none

theorem reading_of_target? {place : Place} {token : Token} {others : List Token}
    {name : Text} (target : target? place token (leadingMark others) = some name) :
    reading place (token :: others) = some ⟨[], name, others⟩ := by
  rw [reading, target]

theorem reading_of_resumed? {place next : Place} {token : Token} {others : List Token}
    (step : resumed? place token (leadingMark others) = some next) :
    reading place (token :: others) =
      (reading next others).map fun found => { found with lead := token :: found.lead } := by
  cases target : target? place token (leadingMark others) with
  | none => rw [reading, target, step]
  | some name => rw [resumed?_of_target? target] at step; cases step

@[simp] theorem reading_elsewhere (list : List Token) : reading .elsewhere list = none := by
  cases list with
  | nil => rfl
  | cons token others => cases token <;> rfl

theorem eq_append_of_reading {place : Place} {list : List Token} {found : Reading}
    (read : reading place list = some found) :
    list = found.lead ++ .word found.name :: found.rest := by
  induction list generalizing place found with
  | nil => cases read
  | cons token others induction =>
      cases target : target? place token (leadingMark others) with
      | some name =>
          rw [reading_of_target? target] at read
          cases read
          rw [eq_word_of_target? target]
          rfl
      | none =>
          cases step : resumed? place token (leadingMark others) with
          | none => simp [reading, target, step] at read
          | some next =>
              rw [reading_of_resumed? step] at read
              obtain ⟨later, laterRead, rfl⟩ := Option.map_eq_some_iff.mp read
              rw [induction laterRead]
              rfl

/-- What is behind the name of a reading, if the name is that of the table. -/
def answer (table : Text) (read : Option Reading) : Option Text :=
  read.bind fun found =>
    if folded found.name = folded table then some (spell found.rest) else none

@[simp] theorem answer_none (table : Text) : answer table none = none := rfl

theorem answer_some (table : Text) (found : Reading) :
    answer table (some found) =
      if folded found.name = folded table then some (spell found.rest) else none := rfl

theorem answer_reading_of_resumed? (table : Text) {place next : Place} {token : Token}
    {others : List Token}
    (step : resumed? place token (leadingMark others) = some next) :
    answer table (reading place (token :: others)) = answer table (reading next others) := by
  rw [reading_of_resumed? step]
  cases reading next others with
  | none => rfl
  | some found => rfl

theorem reading_of_stuck {place : Place} {token : Token} {others : List Token}
    (target : target? place token (leadingMark others) = none)
    (step : resumed? place token (leadingMark others) = none) :
    reading place (token :: others) = none := by
  rw [reading, target, step]

theorem isWord_of_isNameStart {c : Char} (start : isNameStart c = true) :
    isWord c = true :=
  isWord_of_isNameChar (by simp [isNameChar, start])

theorem takeName?_of_border {text : Text} (border : isWordAt text.head? = false) :
    takeName? text = none := by
  cases text with
  | nil => rfl
  | cons c rest =>
      rw [takeName?, if_neg]
      intro start
      have letter := isWord_of_isNameStart start
      simp [isWordAt, letter] at border

theorem takeName?_word {word text : Text} (letters : ∀ c ∈ word, isWord c = true)
    (border : isWordAt text.head? = false) (nonempty : word ≠ []) :
    if isName word = true then takeName? (word ++ text) = some (word, text)
    else ∀ first rest, takeName? (word ++ text) = some (first, rest) →
      isWordAt rest.head? = true := by
  cases word with
  | nil => exact absurd rfl nonempty
  | cons c word =>
      rw [List.cons_append, takeName?, isName]
      by_cases start : isNameStart c = true
      · rw [if_pos start, start, Bool.true_and]
        split
        next all =>
          have names : ∀ d ∈ word, isNameChar d = true := by simpa using all
          have stop : text.takeWhile isNameChar = [] ∧ text.dropWhile isNameChar = text := by
            cases text with
            | nil => exact ⟨rfl, rfl⟩
            | cons d text =>
                have noName : isNameChar d = false := by
                  cases name : isNameChar d with
                  | false => rfl
                  | true => simp [isWordAt, isWord_of_isNameChar name] at border
                simp [noName]
          rw [List.takeWhile_append_of_pos names, List.dropWhile_append_of_pos names,
            stop.1, stop.2, List.append_nil]
        next some =>
          intro first rest taken
          have behind : (word ++ text).dropWhile isNameChar = rest := by
            simpa using (Prod.ext_iff.mp (Option.some.inj taken)).2
          have stays : word.dropWhile isNameChar ≠ [] := by
            intro empty
            exact some (List.all_eq_true.mpr (List.dropWhile_eq_nil_iff.mp empty))
          cases shape : word.dropWhile isNameChar with
          | nil => exact absurd shape stays
          | cons d kept =>
              have inside : d ∈ word :=
                (List.dropWhile_sublist isNameChar).subset (shape ▸ List.mem_cons_self)
              rw [← behind, List.dropWhile_append, shape]
              exact letters d (List.mem_cons_of_mem c inside)
      · simp [start]

section Table

variable {table : Text}

private theorem isWordAt_lastOr {text : Text} (nonempty : text ≠ [])
    (letters : ∀ c ∈ text, isWord c = true) (before : Option Char) :
    isWordAt (lastOr before text) = true := by
  rw [lastOr, List.getLast?_eq_some_getLast nonempty]
  exact letters _ (List.getLast_mem nonempty)

theorem afterName?_eq (wordlike : Wordlike table) (before : Option Char) (text : Text) :
    afterName? table before text =
      (afterFolded? table text).bind fun rest =>
        if isWordAt rest.head? = false ∧ rest.head? ≠ some '.' then some rest else none := by
  rw [afterName?]
  cases found : afterFolded? table text with
  | none => rfl
  | some rest =>
      obtain ⟨head, rfl, same⟩ := afterFolded?_eq_some_iff.mp found
      have spelled := wordlike.of_folded same.symm
      have taken : (head ++ rest).take table.length = head := by
        rw [← length_eq_of_folded same, List.take_left]
      have last := isWordAt_lastOr spelled.nonempty spelled.isWord before
      simp only [taken, isBoundary, last, Option.bind_some]
      cases isWordAt rest.head? <;> simp

theorem afterName?_of_border (wordlike : Wordlike table) (before : Option Char)
    {text : Text} (border : isWordAt text.head? = false) :
    afterName? table before text = none := by
  rw [afterName?_eq wordlike, afterFolded?_of_border wordlike border]
  rfl

theorem afterName?_spell (wordlike : Wordlike table) (before : Option Char)
    {letters : Text} {others : List Token} (proper : Proper (.word letters :: others)) :
    afterName? table before (letters ++ spell others) =
      if folded letters = folded table ∧ leadingMark others ≠ some '.' then
        some (spell others)
      else none := by
  cases proper with
  | word nonempty isWord separate proper =>
      have border := isWordAt_spell_of_separate proper separate
      rw [afterName?_eq wordlike, afterFolded?_bind_word wordlike isWord border]
      · rw [← head?_spell_of_separate separate]
        simp only [border, true_and, ite_and]
      · intro rest inside
        simp [inside]

theorem afterName?_eq_answer (wordlike : Wordlike table) (before : Option Char)
    {list : List Token} (proper : Proper list) :
    afterName? table before (spell list) = answer table (reading .qualified list) := by
  cases list with
  | nil => exact afterName?_of_border wordlike before rfl
  | cons token others =>
      cases token with
      | mark c =>
          refine afterName?_of_border wordlike before ?_
          exact isWordAt_spell_of_separate proper rfl
      | word letters =>
          rw [spell_cons, Token.spelling, afterName?_spell wordlike before proper, reading,
            target?]
          by_cases dotted : leadingMark others = some '.'
          · simp [dotted, resumed?]
          · simp [dotted, answer_some]

theorem afterQualified?_of_takeName? {text first more : Text} (before : Option Char)
    (taken : takeName? text = some (first, '.' :: more)) :
    afterQualified? table before text =
      (afterName? table (some '.') more).or (afterName? table before text) := by
  simp only [afterQualified?, taken]
  cases afterName? table (some '.') more <;> rfl

theorem afterQualified?_of_no_schema {text : Text} (before : Option Char)
    (untaken : ∀ first more, takeName? text ≠ some (first, '.' :: more)) :
    afterQualified? table before text = afterName? table before text := by
  rw [afterQualified?]
  split
  next first more taken => exact absurd taken (untaken first more)
  next => rfl

theorem afterQualified?_of_border (wordlike : Wordlike table) (before : Option Char)
    {text : Text} (border : isWordAt text.head? = false) :
    afterQualified? table before text = none := by
  have untaken := takeName?_of_border border
  rw [afterQualified?_of_no_schema before fun first more taken => by simp [untaken] at taken]
  exact afterName?_of_border wordlike before border

/-- Where no schema is read, a name may stand as it may behind a dot. -/
theorem reading_of_no_schema {token : Token} {others : List Token}
    (stuck : resumed? (.expecting []) token (leadingMark others) = none) :
    reading (.expecting []) (token :: others) = reading .qualified (token :: others) := by
  cases token with
  | mark c => rw [reading_of_stuck rfl stuck, reading_of_stuck rfl rfl]
  | word letters => rw [reading, reading, stuck]; rfl

/-- A schema and a name, or a name alone, are what a clause without further
keywords is read on to. -/
theorem afterQualified?_spell (wordlike : Wordlike table) (before : Option Char)
    {list : List Token} (proper : Proper list)
    (noBlank : (leadingMark list).any isBlank = false) :
    afterQualified? table before (spell list) =
      answer table (reading (.expecting []) list) := by
  cases proper with
  | nil => exact afterQualified?_of_border wordlike before rfl
  | @mark c others noWord proper =>
      have marked : isBlank c = false := noBlank
      have stuck : resumed? (.expecting []) (.mark c) (leadingMark others) = none := by
        simp [resumed?, marked]
      rw [reading_of_stuck rfl stuck]
      exact afterQualified?_of_border wordlike before noWord
  | @word letters others nonempty isWord separate proper =>
      have whole := Proper.word nonempty isWord separate proper
      have border := isWordAt_spell_of_separate proper separate
      have taken := takeName?_word isWord border nonempty
      by_cases schema : leadingMark others = some '.' ∧ isName letters = true
      · obtain ⟨dotted, name⟩ := schema
        obtain ⟨more, rfl⟩ : ∃ more, others = .mark '.' :: more := by
          cases others with
          | nil => cases dotted
          | cons token more =>
              cases token with
              | word => cases dotted
              | mark c => exact ⟨more, by rw [Option.some.inj dotted]⟩
        have step : resumed? (.expecting []) (.word letters)
            (leadingMark (.mark '.' :: more)) = some .schema := if_pos ⟨dotted, name⟩
        have dot : resumed? .schema (.mark '.') (leadingMark more) = some .qualified := rfl
        rw [if_pos name] at taken
        have refused : afterName? table before (letters ++ spell (.mark '.' :: more)) =
            none := by
          rw [afterName?_spell wordlike before whole]
          exact if_neg fun both => both.2 dotted
        rw [answer_reading_of_resumed? table step, answer_reading_of_resumed? table dot,
          spell_cons, Token.spelling, afterQualified?_of_takeName? before taken, refused,
          Option.or_none]
        exact afterName?_eq_answer wordlike _ proper.tail
      · have untaken : ∀ first more,
            takeName? (letters ++ spell others) ≠ some (first, '.' :: more) := by
          intro first more found
          split at taken
          next name =>
            refine schema ⟨?_, name⟩
            rw [taken] at found
            have rest : spell others = '.' :: more := by
              simpa using (Prod.ext_iff.mp (Option.some.inj found)).2
            rw [← head?_spell_of_separate separate, rest]
            rfl
          next =>
            have inside : Text.isWord '.' = true := taken first _ found
            revert inside
            decide
        have stuck : resumed? (.expecting []) (.word letters) (leadingMark others) = none :=
          if_neg schema
        rw [spell_cons, Token.spelling, afterQualified?_of_no_schema before untaken,
          reading_of_no_schema stuck]
        exact afterName?_eq_answer wordlike before whole

theorem afterBlanks?_of_isWordAt {text : Text} (inside : isWordAt text.head? = true) :
    afterBlanks? text = none := by
  cases text with
  | nil => rfl
  | cons c rest =>
      have letter : isWord c = true := inside
      simp [afterBlanks?, isBlank_of_isWord letter]

theorem afterBlanksAndName?_of_isWordAt {text : Text}
    (inside : isWordAt text.head? = true) : afterBlanksAndName? table text = none := by
  cases text with
  | nil => rfl
  | cons c rest =>
      have letter : isWord c = true := inside
      simp [afterBlanksAndName?, isBlank_of_isWord letter]

theorem afterBlanksAndName?_spell (wordlike : Wordlike table) {list : List Token}
    (proper : Proper list) :
    afterBlanksAndName? table (spell list) =
      if (leadingMark list).any isBlank = true then
        answer table (reading (.expecting []) list)
      else none := by
  induction proper with
  | nil => rfl
  | @mark c others noWord proper induction =>
      rw [spell_cons, Token.spelling, List.cons_append, List.nil_append,
        afterBlanksAndName?]
      change (if isBlank c = true then _ else _) = if isBlank c = true then _ else _
      split
      next blank =>
        have step : resumed? (.expecting []) (.mark c) (leadingMark others) =
            some (.expecting []) := if_pos blank
        rw [answer_reading_of_resumed? table step, induction]
        by_cases more : (leadingMark others).any isBlank = true
        · have border : isWordAt (spell others).head? = false := by
            cases proper with
            | nil => rfl
            | mark noWord => exact noWord
            | word => cases more
          rw [if_pos more, afterQualified?_of_border wordlike (some c) border]
          cases answer table (reading (.expecting []) others) <;> rfl
        · rw [if_neg more]
          exact afterQualified?_spell wordlike (some c) proper (by simpa using more)
      next => rfl
  | word nonempty isWord =>
      exact afterBlanksAndName?_of_isWordAt (isWordAt_head?_append nonempty isWord)

def behindBlanks : List Token → List Token
  | .mark c :: others => if isBlank c then behindBlanks others else .mark c :: others
  | list => list

theorem proper_behindBlanks {list : List Token} (proper : Proper list) :
    Proper (behindBlanks list) := by
  induction proper with
  | nil => exact .nil
  | mark noWord proper induction =>
      rw [behindBlanks]
      split
      · exact induction
      · exact .mark noWord proper
  | word nonempty isWord separate proper => exact .word nonempty isWord separate proper

theorem leadingMark_behindBlanks (list : List Token) :
    (leadingMark (behindBlanks list)).any isBlank = false := by
  induction list with
  | nil => rfl
  | cons token others induction =>
      cases token with
      | word => rfl
      | mark c =>
          rw [behindBlanks]
          split
          · exact induction
          next noBlank => simpa [leadingMark] using noBlank

theorem trimLeft_spell {list : List Token} (proper : Proper list) :
    trimLeft (spell list) = spell (behindBlanks list) := by
  induction proper with
  | nil => rfl
  | @mark c others noWord proper induction =>
      rw [spell_cons, Token.spelling, List.cons_append, List.nil_append, behindBlanks]
      split
      next blank =>
        rw [← induction]
        simp [trimLeft, blank]
      next noBlank => simp [trimLeft, noBlank, Token.spelling]
  | @word letters others nonempty isWord =>
      cases letters with
      | nil => exact absurd rfl nonempty
      | cons c letters =>
          have noBlank := isBlank_of_isWord (isWord c List.mem_cons_self)
          simp [trimLeft, behindBlanks, Token.spelling, noBlank]

theorem afterBlanks?_spell {list : List Token} (proper : Proper list) :
    afterBlanks? (spell list) =
      if (leadingMark list).any isBlank = true then some (spell (behindBlanks list))
      else none := by
  cases proper with
  | nil => rfl
  | @mark c others noWord proper =>
      rw [spell_cons, Token.spelling, List.cons_append, List.nil_append, afterBlanks?,
        trimLeft_spell proper]
      change (if isBlank c = true then _ else _) = if isBlank c = true then _ else _
      split
      next blank => rw [behindBlanks, if_pos blank]
      next => rfl
  | word nonempty isWord =>
      exact afterBlanks?_of_isWordAt (isWordAt_head?_append nonempty isWord)

/-- A reading of what stands behind the keywords of a clause, told twice: `next`
reads the text, and `read` reads the tokens from a place of the machine. -/
structure Reads {β : Type} (next : Text → Option β)
    (read : Place → List Token → Option β) : Prop where
  refuses : ∀ text, isWordAt text.head? = true → next text = none
  starts : ∀ list, Proper list →
    next (spell list) =
      if (leadingMark list).any isBlank = true then read (.expecting []) list else none
  blank : ∀ words c others, isBlank c = true →
    read (.expecting words) (.mark c :: others) = read (.expecting words) others
  keyword : ∀ word words letters others,
    read (.expecting (word :: words)) (.word letters :: others) =
      if folded letters = folded word ∧ (leadingMark others).any isBlank = true then
        read (.expecting words) others
      else none
  missing : ∀ word words list, opensWithWord list = false →
    (leadingMark list).any isBlank = false → read (.expecting (word :: words)) list = none

theorem reads_answer (wordlike : Wordlike table) :
    Reads (afterBlanksAndName? table) fun place list => answer table (reading place list) where
  refuses := fun _ => afterBlanksAndName?_of_isWordAt
  starts := fun _ => afterBlanksAndName?_spell wordlike
  blank := fun _ _ _ marked => answer_reading_of_resumed? table (if_pos marked)
  keyword := by
    intro word words letters others
    split
    next keyword => exact answer_reading_of_resumed? table (if_pos keyword)
    next other =>
      have stuck : resumed? (.expecting (word :: words)) (.word letters)
          (leadingMark others) = none := if_neg other
      rw [reading_of_stuck rfl stuck]
      rfl
  missing := by
    intro word words list separate noBlank
    cases list with
    | nil => rfl
    | cons token others =>
        cases token with
        | word => cases separate
        | mark c =>
            have marked : isBlank c = false := noBlank
            rw [reading_of_stuck rfl (by simp [resumed?, marked])]
            rfl

theorem afterPhrase?_cons_cons (word next : Text) (words : List Text) (text : Text) :
    afterPhrase? (word :: next :: words) text =
      (afterFolded? word text).bind fun rest =>
        (afterBlanks? rest).bind (afterPhrase? (next :: words)) := by
  rw [afterPhrase?]
  · cases afterFolded? word text with
    | none => rfl
    | some rest =>
        simp only [Option.bind_some]
        cases afterBlanks? rest <;> rfl
  · simp

theorem afterPhrase?_of_border {word : Text} (keyword : Wordlike word)
    (words : List Text) {text : Text} (border : isWordAt text.head? = false) :
    afterPhrase? (word :: words) text = none := by
  have missing := afterFolded?_of_border keyword border
  cases words with
  | nil => exact missing
  | cons following words => rw [afterPhrase?_cons_cons, missing, Option.bind_none]

namespace Reads

variable {β : Type} {next : Text → Option β} {read : Place → List Token → Option β}

theorem behindBlanks (reads : Reads next read) (words : List Text) (list : List Token) :
    read (.expecting words) (Sql.behindBlanks list) = read (.expecting words) list := by
  induction list with
  | nil => rfl
  | cons token others induction =>
      cases token with
      | word => rfl
      | mark c =>
          rw [Sql.behindBlanks]
          split
          next marked => rw [induction, reads.blank words c others marked]
          next => rfl

private theorem afterPhrase?_bind_of_separate (reads : Reads next read) {word : Text}
    (keyword : Wordlike word) (words : List Text) {list : List Token}
    (proper : Proper list) (separate : opensWithWord list = false)
    (noBlank : (leadingMark list).any isBlank = false) :
    (afterPhrase? (word :: words) (spell list)).bind next =
      read (.expecting (word :: words)) list := by
  have border := isWordAt_spell_of_separate proper separate
  rw [afterPhrase?_of_border keyword words border,
    reads.missing word words list separate noBlank]
  rfl

/-- Keywords and what is behind them are read as the machine reads them that is
expecting the keywords. -/
theorem afterPhrase?_bind (reads : Reads next read) {word : Text} {words : List Text}
    (keywords : ∀ keyword ∈ word :: words, Wordlike keyword) {list : List Token}
    (proper : Proper list) (noBlank : (leadingMark list).any isBlank = false) :
    (afterPhrase? (word :: words) (spell list)).bind next =
      read (.expecting (word :: words)) list := by
  have keyword := keywords word List.mem_cons_self
  induction words generalizing word list with
  | nil =>
      cases proper with
      | nil => exact reads.afterPhrase?_bind_of_separate keyword [] .nil rfl rfl
      | mark noWord proper =>
          exact reads.afterPhrase?_bind_of_separate keyword [] (.mark noWord proper) rfl noBlank
      | word nonempty isWord separate proper =>
          have border := isWordAt_spell_of_separate proper separate
          rw [afterPhrase?, spell_cons, Token.spelling,
            afterFolded?_bind_word keyword isWord border reads.refuses,
            reads.starts _ proper, reads.keyword, ite_and]
  | cons following words induction =>
      cases proper with
      | nil => exact reads.afterPhrase?_bind_of_separate keyword _ .nil rfl rfl
      | mark noWord proper =>
          exact reads.afterPhrase?_bind_of_separate keyword _ (.mark noWord proper) rfl noBlank
      | @word letters others nonempty isWord separate proper =>
          have laterKeywords : ∀ other ∈ following :: words, Wordlike other :=
            fun other member => keywords other (List.mem_cons_of_mem word member)
          have later := induction laterKeywords (proper_behindBlanks proper)
            (leadingMark_behindBlanks others) (laterKeywords following List.mem_cons_self)
          have border := isWordAt_spell_of_separate proper separate
          rw [afterPhrase?_cons_cons, Option.bind_assoc, spell_cons, Token.spelling,
            afterFolded?_bind_word keyword isWord border, reads.keyword, ite_and,
            afterBlanks?_spell proper]
          · split
            · split
              · rw [Option.bind_some, later, reads.behindBlanks]
              · rfl
            · rfl
          · intro rest inside
            rw [afterBlanks?_of_isWordAt inside]
            rfl

end Reads

private theorem findSome?_bind {α β γ : Type} {found : α → Option β} {list : List α}
    (alone : list.Pairwise fun left right => found left = none ∨ found right = none)
    (next : β → Option γ) :
    (list.findSome? found).bind next = list.findSome? fun item => (found item).bind next := by
  induction alone with
  | nil => rfl
  | @cons item others single alone induction =>
      rw [List.findSome?_cons, List.findSome?_cons]
      cases first : found item with
      | none => exact induction
      | some value =>
          have silent : others.findSome? (fun item => (found item).bind next) = none := by
            refine List.findSome?_eq_none_iff.mpr fun other member => ?_
            have missing : found other = none := by simpa [first] using single other member
            rw [missing, Option.bind_none]
          rw [Option.bind_some, silent]
          cases next value <;> rfl

theorem findSome?_congr_of_mem {α β : Type} {first second : α → Option β} {list : List α}
    (agree : ∀ item ∈ list, first item = second item) :
    list.findSome? first = list.findSome? second := by
  induction list with
  | nil => rfl
  | cons item others induction =>
      rw [List.findSome?_cons, List.findSome?_cons, agree item List.mem_cons_self,
        induction fun other member => agree other (List.mem_cons_of_mem item member)]

/-- The letter that a clause begins with. -/
def initial (words : List Text) : Option Char :=
  words.head?.bind fun word => (folded word).head?

private theorem tableClauses_distinct :
    tableClauses.Pairwise fun left right => initial left ≠ initial right := by
  decide

theorem keyword_cases {words : List Text} (clause : words ∈ tableClauses) :
    ∃ word others, words = word :: others ∧ ∀ keyword ∈ words, Wordlike keyword := by
  have named : ∀ words ∈ tableClauses, words ≠ [] ∧ ∀ keyword ∈ words,
      keyword ≠ [] ∧ keyword.all isNameChar = true := by
    decide
  obtain ⟨nonempty, names⟩ := named words clause
  obtain ⟨word, others, rfl⟩ := List.exists_cons_of_ne_nil nonempty
  refine ⟨word, others, rfl, fun keyword member => ?_⟩
  obtain ⟨letters, name⟩ := names keyword member
  exact .of_isNameChar letters (List.all_eq_true.mp name)

/-- At most one clause is met, for all of them begin differently. -/
private theorem tableClauses_alone {β : Type} {found : List Text → Option β}
    {letter : Option Char}
    (met : ∀ words ∈ tableClauses, found words ≠ none → initial words = letter) :
    tableClauses.Pairwise fun left right => found left = none ∨ found right = none := by
  refine tableClauses_distinct.imp_of_mem fun {left right} leftMember rightMember different => ?_
  by_contra both
  rw [not_or] at both
  exact different ((met left leftMember both.1).trans (met right rightMember both.2).symm)

private theorem initial_of_afterPhrase? {words : List Text} (clause : words ∈ tableClauses)
    {text : Text} (met : afterPhrase? words text ≠ none) :
    initial words = (folded text).head? := by
  obtain ⟨word, others, rfl, keywords⟩ := keyword_cases clause
  have nonempty := (keywords word List.mem_cons_self).nonempty
  cases found : afterFolded? word text with
  | none =>
      cases others with
      | nil => exact absurd found met
      | cons => simp [afterPhrase?_cons_cons, found] at met
  | some rest =>
      obtain ⟨head, rfl, same⟩ := afterFolded?_eq_some_iff.mp found
      have start : folded word ≠ [] := by simpa [folded] using nonempty
      rw [folded_append, same, List.head?_append_of_ne_nil _ start]
      rfl

private theorem initial_of_resumed? {words : List Text} (clause : words ∈ tableClauses)
    {letters : Text} {next : Option Char}
    (met : resumed? (.expecting words) (.word letters) next ≠ none) :
    initial words = (folded letters).head? := by
  obtain ⟨word, others, rfl, -⟩ := keyword_cases clause
  rw [resumed?] at met
  split at met
  next keyword => rw [keyword.1]; rfl
  next => exact absurd rfl met

/-- Behind the keywords of a clause, the text is read as the machine reads it. -/
theorem Reads.afterTableClause?_bind {β : Type} {next : Text → Option β}
    {read : Place → List Token → Option β} (reads : Reads next read) {letters : Text}
    {others : List Token} (proper : Proper (.word letters :: others))
    {before : Option Char} (border : isWordAt before = false) :
    (afterTableClause? before (letters ++ spell others)).bind next =
      (started? (.word letters) (leadingMark others)).bind fun place =>
        read place others := by
  have byPhrase := tableClauses_alone fun words clause =>
    @initial_of_afterPhrase? words clause (letters ++ spell others)
  have byToken := tableClauses_alone fun words clause =>
    @initial_of_resumed? words clause letters (leadingMark others)
  rw [afterTableClause?, border, started?]
  simp only [Bool.false_eq_true, if_false]
  rw [findSome?_bind byPhrase, findSome?_bind byToken]
  refine findSome?_congr_of_mem fun words clause => ?_
  obtain ⟨word, rest, rfl, keywords⟩ := keyword_cases clause
  have phrase := reads.afterPhrase?_bind keywords proper rfl
  rw [spell_cons, Token.spelling] at phrase
  rw [phrase, reads.keyword, resumed?]
  split <;> rfl

theorem afterTableClause?_of_border (before : Option Char) {text : Text}
    (border : isWordAt text.head? = false) : afterTableClause? before text = none := by
  rw [afterTableClause?]
  split
  · rfl
  · refine List.findSome?_eq_none_iff.mpr fun words clause => ?_
    obtain ⟨word, others, rfl, keywords⟩ := keyword_cases clause
    exact afterPhrase?_of_border (keywords word List.mem_cons_self) others border

theorem referenceFinder_eq (before : Option Char) (text : Text) :
    referenceFinder table before text =
      ((afterTableClause? before text).bind (afterBlanksAndName? table)).map fun rest =>
        (text.take (text.length - rest.length - table.length), rest) := by
  rw [referenceFinder]
  cases afterTableClause? before text with
  | none => rfl
  | some rest =>
      simp only [Option.bind_some]
      cases afterBlanksAndName? table rest <;> rfl

theorem referenceFinder_spell (wordlike : Wordlike table) {letters : Text}
    {others : List Token} (proper : Proper (.word letters :: others))
    {before : Option Char} (border : isWordAt before = false) :
    referenceFinder table before (letters ++ spell others) =
      (started? (.word letters) (leadingMark others)).bind fun place =>
        (reading place others).bind fun found =>
          if folded found.name = folded table then
            some (letters ++ spell found.lead, spell found.rest)
          else none := by
  rw [referenceFinder_eq, (reads_answer wordlike).afterTableClause?_bind proper border]
  cases started? (.word letters) (leadingMark others) with
  | none => rfl
  | some place =>
      rw [Option.bind_some, Option.bind_some]
      cases read : reading place others with
      | none => rfl
      | some found =>
          rw [answer_some, Option.bind_some]
          split
          next same =>
            have size := length_eq_of_folded same
            have whole : letters ++ spell others =
                (letters ++ spell found.lead) ++ (found.name ++ spell found.rest) := by
              rw [eq_append_of_reading read, spell_append, spell_cons, Token.spelling,
                List.append_assoc]
            have leading : (letters ++ spell others).length - (spell found.rest).length
                - table.length = (letters ++ spell found.lead).length := by
              simp only [whole, List.length_append]
              omega
            rw [Option.map_some, leading, whole, List.take_left]
          next => rfl

theorem referenceFinder_of_border (before : Option Char) {text : Text}
    (border : isWordAt text.head? = false) : referenceFinder table before text = none := by
  rw [referenceFinder_eq, afterTableClause?_of_border before border]
  rfl

theorem startsAtBorder_referenceFinder : (referenceFinder table).StartsAtBorder := by
  intro before text inside
  rw [referenceFinder_eq, afterTableClause?, if_pos inside]
  rfl

end Table

end SqlFanout.Sql
