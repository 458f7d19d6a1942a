import Mathlib.Data.List.Basic
import SqlFanout.Proofs.Lines
import SqlFanout.Proofs.Tokens
import SqlFanout.Sql.SelectField

/-!
# Top level

The places of a text outside of all parentheses and quotes are those at which a
statement is cut: before `FROM`, at commas and at `AS`.  Whether something starts
at such a place is told by one walk, `startsAtTop`, which splits along the text.
A text is closed if it leaves the walk at top level and holds none of the three
cuts itself; then cutting a text that is put together from closed ones takes it
apart into them.
-/

namespace SqlFanout.Sql

open Text

namespace Nesting

@[simp] theorem after_nil (nesting : Nesting) : nesting.after [] = nesting := rfl

@[simp] theorem after_cons (nesting : Nesting) (c : Char) (rest : Text) :
    nesting.after (c :: rest) = (nesting.step c).after rest := rfl

@[simp] theorem after_append (nesting : Nesting) (left right : Text) :
    nesting.after (left ++ right) = (nesting.after left).after right :=
  List.foldl_append

theorem isTop_iff {nesting : Nesting} : nesting.isTop = true ↔ nesting = top := by
  obtain ⟨depth, quote⟩ := nesting
  simp [isTop, top]

/-- Only quotes are waited for. -/
def Sane (nesting : Nesting) : Prop :=
  ∀ quote ∈ nesting.quote, isQuote quote = true

theorem sane_top : Sane top := by
  simp [Sane, top]

theorem Sane.step {nesting : Nesting} (sane : nesting.Sane) (c : Char) :
    (nesting.step c).Sane := by
  rw [Nesting.step]
  split
  · split
    · simp [Sane]
    · exact sane
  next outside =>
    split
    next opens => simpa [Sane] using opens
    next => split <;> (try split) <;> simp [Sane, outside]

theorem Sane.after {nesting : Nesting} (sane : nesting.Sane) (text : Text) :
    (nesting.after text).Sane := by
  induction text generalizing nesting with
  | nil => exact sane
  | cons c rest induction => exact induction (sane.step c)

/-- The characters that open or close something. -/
def brackets : List Char :=
  ['\x27', '\x22', '\x60', '(', ')']

theorem Sane.step_of_not_mem {nesting : Nesting} (sane : nesting.Sane) {c : Char}
    (ordinary : c ∉ brackets) : nesting.step c = nesting := by
  have noQuote : isQuote c = false := by
    simp_all [brackets, isQuote]
  rw [Nesting.step]
  split
  next quote inside =>
    have different : c ≠ quote := by
      rintro rfl
      simp [sane c inside] at noQuote
    simp [different]
  next => simp_all [brackets]

theorem Sane.after_of_not_mem {nesting : Nesting} (sane : nesting.Sane) {text : Text}
    (ordinary : ∀ c ∈ text, c ∉ brackets) : nesting.after text = nesting := by
  induction text with
  | nil => rfl
  | cons c rest induction =>
      rw [after_cons, sane.step_of_not_mem (ordinary c List.mem_cons_self)]
      exact induction fun d member => ordinary d (List.mem_cons_of_mem c member)

private theorem not_mem_brackets {test : Char → Bool} {c : Char}
    (marks : brackets.all (fun d => !test d) = true) (passes : test c = true) :
    c ∉ brackets := by
  intro member
  have fails := List.all_eq_true.mp marks c member
  simp [passes] at fails

theorem not_mem_brackets_of_isWord {c : Char} (word : isWord c = true) : c ∉ brackets :=
  not_mem_brackets (by decide) word

theorem not_mem_brackets_of_isBlank {c : Char} (blank : isBlank c = true) : c ∉ brackets :=
  not_mem_brackets (by decide) blank

theorem Sane.after_of_isWord {nesting : Nesting} (sane : nesting.Sane) {letters : Text}
    (isWord : ∀ c ∈ letters, isWord c = true) : nesting.after letters = nesting :=
  sane.after_of_not_mem fun c member => not_mem_brackets_of_isWord (isWord c member)

theorem Sane.after_of_isBlank {nesting : Nesting} (sane : nesting.Sane) {blanks : Text}
    (blank : ∀ c ∈ blanks, isBlank c = true) : nesting.after blanks = nesting :=
  sane.after_of_not_mem fun c member => not_mem_brackets_of_isBlank (blank c member)

end Nesting

/-- Whether something starts at a top-level place of a text, for a test that sees
the character before the place and the text from there on. -/
def startsAtTop (test : Option Char → Text → Bool) (following : Text) :
    Nesting → Option Char → Text → Bool
  | _, _, [] => false
  | nesting, before, c :: rest =>
      (nesting.isTop && test before (c :: (rest ++ following)))
        || startsAtTop test following (nesting.step c) (some c) rest

@[simp] theorem startsAtTop_nil (test : Option Char → Text → Bool) (following : Text)
    (nesting : Nesting) (before : Option Char) :
    startsAtTop test following nesting before [] = false := rfl

theorem startsAtTop_append (test : Option Char → Text → Bool) (following : Text)
    (nesting : Nesting) (before : Option Char) (left right : Text) :
    startsAtTop test following nesting before (left ++ right) =
      (startsAtTop test (right ++ following) nesting before left
        || startsAtTop test following (nesting.after left) (lastOr before left) right) := by
  induction left generalizing nesting before with
  | nil => rfl
  | cons c left induction =>
      rw [List.cons_append, startsAtTop, startsAtTop, induction, lastOr_cons, Bool.or_assoc,
        List.append_assoc]
      rfl

theorem startsAtTop_of_starts {test : Option Char → Text → Bool} {following : Text}
    {nesting : Nesting} {before : Option Char} {left right : Text}
    (top : nesting.after left = .top) (nonempty : right ≠ [])
    (starts : test (lastOr before left) (right ++ following) = true) :
    startsAtTop test following nesting before (left ++ right) = true := by
  obtain ⟨c, rest, rfl⟩ := List.exists_cons_of_ne_nil nonempty
  rw [List.cons_append] at starts
  rw [startsAtTop_append, top, startsAtTop, starts]
  exact Bool.or_true _

theorem startsAtTop_of_fails {test : Option Char → Text → Bool} {following text : Text}
    (fails : ∀ before c rest, c ∈ text → test before (c :: rest) = false)
    (nesting : Nesting) (before : Option Char) :
    startsAtTop test following nesting before text = false := by
  induction text generalizing nesting before with
  | nil => rfl
  | cons c text induction =>
      rw [startsAtTop, fails before c _ List.mem_cons_self, Bool.and_false, Bool.false_or]
      exact induction (fun before d rest member =>
        fails before d rest (List.mem_cons_of_mem c member)) _ _

def startsFrom (before : Option Char) (text : Text) : Bool :=
  (afterWord? "FROM" before text).isSome

def startsComma (_before : Option Char) (text : Text) : Bool :=
  text.head? == some ','

/-- The word `AS` between blanks or at an end of the text. -/
def startsAs (before : Option Char) (text : Text) : Bool :=
  before.all isBlank && (afterFolded? "AS" text).any fun rest => rest.head?.all isBlank

/-- A text that is not empty, has no blank at its ends, leaves the scanner at top
level, and has at top level no comma, no word `FROM`, and no word `AS` between
blanks or the ends of the text. -/
structure Closed (text : Text) : Prop where
  tight : Tight text
  balanced : Nesting.top.after text = .top
  noComma : startsAtTop startsComma [] .top none text = false
  noFrom : startsAtTop startsFrom [] .top none text = false
  noAs : startsAtTop startsAs [] .top none text = false

theorem closed_iff {text : Text} :
    Closed text ↔ Tight text ∧ Nesting.top.after text = .top ∧
      startsAtTop startsComma [] .top none text = false ∧
      startsAtTop startsFrom [] .top none text = false ∧
      startsAtTop startsAs [] .top none text = false := by
  constructor
  · rintro ⟨tight, balanced, noComma, noFrom, noAs⟩
    exact ⟨tight, balanced, noComma, noFrom, noAs⟩
  · rintro ⟨tight, balanced, noComma, noFrom, noAs⟩
    exact ⟨tight, balanced, noComma, noFrom, noAs⟩

instance (text : Text) : Decidable (Closed text) :=
  decidable_of_iff _ closed_iff.symm

theorem afterWord?_eq_some_iff {keyword text rest : Text} {before : Option Char} :
    afterWord? keyword before text = some rest ↔
      isWordAt before = false ∧ (∃ word, text = word ++ rest ∧ folded word = folded keyword) ∧
        isWordAt rest.head? = false := by
  rw [← afterFolded?_eq_some_iff, afterWord?]
  cases isWordAt before with
  | true => simp
  | false =>
      cases found : afterFolded? keyword text with
      | none => simp
      | some tail =>
          by_cases border : isWordAt tail.head? = true
          · simp only [border, Bool.false_eq_true, if_false, if_true]
            constructor
            · intro nothing
              cases nothing
            · rintro ⟨-, equal, outside⟩
              cases equal
              rw [border] at outside
              cases outside
          · simp only [border, Bool.false_eq_true, if_false]
            constructor
            · intro equal
              cases equal
              exact ⟨trivial, rfl, by simpa using border⟩
            · rintro ⟨-, equal, -⟩
              exact equal

theorem afterWord?_of_border {keyword text : Text} (wordlike : Wordlike keyword)
    (before : Option Char) (border : isWordAt text.head? = false) :
    afterWord? keyword before text = none := by
  rw [afterWord?, afterFolded?_of_border wordlike border]
  split <;> rfl

/-- Whether a word starts a text does not depend on what is behind a border. -/
theorem afterWord?_append {keyword : Text} (wordlike : Wordlike keyword) {following : Text}
    (border : isWordAt following.head? = false) (before : Option Char) (text : Text) :
    afterWord? keyword before (text ++ following) =
      (afterWord? keyword before text).map (· ++ following) := by
  rw [afterWord?, afterWord?]
  split
  · rfl
  · cases found : afterFolded? keyword text with
    | some rest =>
        obtain ⟨head, rfl, same⟩ := afterFolded?_eq_some_iff.mp found
        rw [List.append_assoc, afterFolded?_of_folded _ same]
        cases rest with
        | nil =>
            have ending : isWordAt none = false := rfl
            simp [border, ending]
        | cons c rest =>
            simp only [List.cons_append, List.head?_cons]
            by_cases inside : isWordAt (some c) = true <;> simp [inside]
    | none =>
        cases beyond : afterFolded? keyword (text ++ following) with
        | none => rfl
        | some rest =>
            obtain ⟨head, split, same⟩ := afterFolded?_eq_some_iff.mp beyond
            have letters := (wordlike.of_folded same.symm).isWord
            rcases List.append_eq_append_iff.mp split with ⟨more, rfl, rfl⟩ | ⟨more, rfl, rfl⟩
            · cases more with
              | nil =>
                  rw [List.append_nil] at same
                  have whole := afterFolded?_of_folded [] same
                  rw [List.append_nil, found] at whole
                  cases whole
              | cons c more =>
                  have letter := letters c (by simp)
                  simp [isWordAt, letter] at border
            · rw [afterFolded?_of_folded _ same] at found
              cases found

theorem wordlike_of_all {keyword : Text} (nonempty : keyword ≠ [])
    (letters : keyword.all isNameChar = true) : Wordlike keyword :=
  .of_isNameChar nonempty (List.all_eq_true.mp letters)

theorem wordlike_from : Wordlike "FROM" :=
  wordlike_of_all (by decide) (by decide)

theorem wordlike_select : Wordlike "SELECT" :=
  wordlike_of_all (by decide) (by decide)

theorem startsFrom_append {following : Text} (border : isWordAt following.head? = false)
    (before : Option Char) (text : Text) :
    startsFrom before (text ++ following) = startsFrom before text := by
  rw [startsFrom, startsFrom, afterWord?_append wordlike_from border,
    Option.isSome_map]

theorem startsFrom_of_border {before other : Option Char} {text : Text}
    (starts : startsFrom before text = true) (border : isWordAt other = false) :
    startsFrom other text = true := by
  obtain ⟨rest, found⟩ := Option.isSome_iff_exists.mp starts
  obtain ⟨-, word, behind⟩ := afterWord?_eq_some_iff.mp found
  have again : afterWord? "FROM" other text = some rest :=
    afterWord?_eq_some_iff.mpr ⟨border, word, behind⟩
  rw [startsFrom, again]
  rfl

theorem ne_nil_of_startsFrom {before : Option Char} {text : Text}
    (starts : startsFrom before text = true) : text ≠ [] := by
  rintro rfl
  simp [startsFrom, afterWord?, afterFolded?] at starts

theorem startsAtTop_startsFrom_of_all {text : Text}
    (absent : text.all (fun c => fold c != fold 'F') = true) (following : Text)
    (nesting : Nesting) (before : Option Char) :
    startsAtTop startsFrom following nesting before text = false := by
  apply startsAtTop_of_fails
  intro before c rest member
  have other : fold c ≠ fold 'F' := by
    simpa using List.all_eq_true.mp absent c member
  simp [startsFrom, afterWord?, afterFolded?, sameLetter, Ne.symm other]

/-- Whether a text shows `FROM` depends on its neighbours only as far as they are
word characters. -/
theorem startsAtTop_startsFrom_border {text following : Text}
    (border : isWordAt following.head? = false) (nesting : Nesting) {before : Option Char}
    (start : isWordAt before = false) :
    startsAtTop startsFrom following nesting before text =
      startsAtTop startsFrom [] nesting none text := by
  have behind : ∀ nesting before, startsAtTop startsFrom following nesting before text =
      startsAtTop startsFrom [] nesting before text := by
    induction text with
    | nil => intro nesting before; rfl
    | cons c text induction =>
        intro nesting before
        have here := startsFrom_append border before (c :: text)
        rw [startsAtTop, startsAtTop, induction, List.append_nil, ← List.cons_append, here]
  rw [behind]
  cases text with
  | nil => rfl
  | cons c text =>
      have none : isWordAt none = false := rfl
      simp only [startsAtTop, startsFrom, afterWord?, start, none]

theorem take_append_sub (left right : Text) :
    (left ++ right).take ((left ++ right).length - right.length) = left := by
  rw [List.length_append, Nat.add_sub_cancel, List.take_left]

/-- The cut behind `SELECT` depends on the text behind it only as far as that is at
a border. -/
theorem cutAfterSelect?_eq_some {before : Option Char} {text head rest : Text}
    (found : cutAfterSelect? before text = some (head, rest)) :
    text = head ++ rest ∧ head ≠ [] ∧ isWordAt rest.head? = false ∧
      ∀ following, isWordAt following.head? = false →
        cutAfterSelect? before (head ++ following) = some (head, following) := by
  induction text generalizing before head with
  | nil => cases found
  | cons c text induction =>
      rw [cutAfterSelect?] at found
      cases here : afterWord? "SELECT" before (c :: text) with
      | some tail =>
          simp only [here, Option.some.injEq, Prod.mk.injEq] at found
          obtain ⟨taken, rfl⟩ := found
          obtain ⟨start, ⟨word, split, same⟩, border⟩ := afterWord?_eq_some_iff.mp here
          rw [split, take_append_sub] at taken
          subst taken
          obtain ⟨d, letters, rfl⟩ := List.exists_cons_of_ne_nil
            (wordlike_select.of_folded same.symm).nonempty
          refine ⟨split, List.cons_ne_nil d letters, border, ?_⟩
          intro following border
          have again : afterWord? "SELECT" before (d :: (letters ++ following)) =
              some following :=
            afterWord?_eq_some_iff.mpr ⟨start, ⟨d :: letters, rfl, same⟩, border⟩
          rw [List.cons_append, cutAfterSelect?, again, ← List.cons_append]
          simp only [take_append_sub]
      | none =>
          simp only [here, Option.map_eq_some_iff, Prod.exists, Prod.mk.injEq] at found
          obtain ⟨later, behind, found, rfl, rfl⟩ := found
          obtain ⟨rfl, -, border, again⟩ := induction found
          refine ⟨rfl, List.cons_ne_nil c later, border, ?_⟩
          intro following other
          have silent : afterWord? "SELECT" before (c :: later) = none := by
            rw [← List.cons_append, afterWord?_append wordlike_select border] at here
            exact Option.map_eq_none_iff.mp here
          have still : afterWord? "SELECT" before (c :: (later ++ following)) = none := by
            rw [← List.cons_append, afterWord?_append wordlike_select other, silent]
            rfl
          rw [List.cons_append, cutAfterSelect?, still, again following other]
          rfl

/-- The cut behind `SELECT` depends on the character before only as far as that is
at a border. -/
theorem cutAfterSelect?_border {before : Option Char} (border : isWordAt before = false)
    (text : Text) : cutAfterSelect? before text = cutAfterSelect? none text := by
  have none : isWordAt none = false := rfl
  cases text with
  | nil => rfl
  | cons c text => simp only [cutAfterSelect?, afterWord?, border, none]

theorem cutAfterSelect?_blanks_append {lead : Text} (blank : ∀ c ∈ lead, isBlank c = true)
    (text : Text) {before : Option Char} (start : isWordAt before = false) :
    cutAfterSelect? before (lead ++ text) =
      (cutAfterSelect? none text).map fun cut => (lead ++ cut.1, cut.2) := by
  induction lead generalizing before with
  | nil =>
      rw [List.nil_append, cutAfterSelect?_border start]
      simp
  | cons c lead induction =>
      have noWord := isWord_of_isBlank (blank c List.mem_cons_self)
      have silent : afterWord? "SELECT" before (c :: (lead ++ text)) = none :=
        afterWord?_of_border wordlike_select before noWord
      have later := @induction (fun d member => blank d (List.mem_cons_of_mem c member))
        (some c) noWord
      rw [List.cons_append, cutAfterSelect?, silent, later]
      simp only [Option.map_map]
      rfl

section Marks

variable {marks : Text}

theorem cutAfterSelect?_marks (noWord : ∀ c ∈ marks, isWord c = false)
    (before : Option Char) : cutAfterSelect? before marks = none := by
  induction marks generalizing before with
  | nil => rfl
  | cons c marks induction =>
      obtain ⟨mark, others⟩ := List.forall_mem_cons.mp noWord
      have silent : afterWord? "SELECT" before (c :: marks) = none :=
        afterWord?_of_border wordlike_select before mark
      rw [cutAfterSelect?, silent, induction others]
      rfl

theorem cutBeforeFrom?_marks (noWord : ∀ c ∈ marks, isWord c = false) (nesting : Nesting)
    (before : Option Char) : cutBeforeFrom? nesting before marks = none := by
  induction marks generalizing nesting before with
  | nil => rfl
  | cons c marks induction =>
      obtain ⟨mark, others⟩ := List.forall_mem_cons.mp noWord
      have silent : afterWord? "FROM" before (c :: marks) = none :=
        afterWord?_of_border wordlike_from before mark
      rw [cutBeforeFrom?, silent, induction others, Option.isSome_none, Bool.and_false]
      rfl

theorem isWordAt_head?_of_noWord (noWord : ∀ c ∈ marks, isWord c = false) :
    isWordAt marks.head? = false := by
  cases marks with
  | nil => rfl
  | cons c marks => exact noWord c List.mem_cons_self

theorem cutAfterSelect?_append_marks (noWord : ∀ c ∈ marks, isWord c = false)
    (before : Option Char) (text : Text) :
    cutAfterSelect? before (text ++ marks) =
      (cutAfterSelect? before text).map fun cut => (cut.1, cut.2 ++ marks) := by
  induction text generalizing before with
  | nil => exact cutAfterSelect?_marks noWord before
  | cons c text induction =>
      have border := isWordAt_head?_of_noWord noWord
      rw [List.cons_append, cutAfterSelect?, cutAfterSelect?, ← List.cons_append,
        afterWord?_append wordlike_select border]
      cases found : afterWord? "SELECT" before (c :: text) with
      | none =>
          rw [induction]
          simp only [Option.map_none, Option.map_map]
          rfl
      | some rest =>
          obtain ⟨-, ⟨word, split, -⟩, -⟩ := afterWord?_eq_some_iff.mp found
          simp only [split, Option.map_some, List.append_assoc, take_append_sub]

theorem cutBeforeFrom?_append_marks (noWord : ∀ c ∈ marks, isWord c = false)
    (nesting : Nesting) (before : Option Char) (text : Text) :
    cutBeforeFrom? nesting before (text ++ marks) =
      (cutBeforeFrom? nesting before text).map fun cut => (cut.1, cut.2 ++ marks) := by
  induction text generalizing nesting before with
  | nil => exact cutBeforeFrom?_marks noWord nesting before
  | cons c text induction =>
      have border := isWordAt_head?_of_noWord noWord
      rw [List.cons_append, cutBeforeFrom?, cutBeforeFrom?, ← List.cons_append,
        afterWord?_append wordlike_from border, Option.isSome_map, induction]
      split
      · rfl
      · simp only [Option.map_map]
        rfl

end Marks

theorem cutAfterSelect?_of_trim {sql head rest : Text}
    (found : cutAfterSelect? none (trim sql) = some (head, rest)) :
    ∃ lead following, (∀ c ∈ lead, isBlank c = true) ∧
      cutAfterSelect? none sql = some (lead ++ head, following) := by
  obtain ⟨lead, trailing, split, leadBlank, trailingBlank⟩ := exists_trim sql
  have noWord : ∀ c ∈ trailing, isWord c = false :=
    fun c member => isWord_of_isBlank (trailingBlank c member)
  refine ⟨lead, rest ++ trailing, leadBlank, ?_⟩
  conv_lhs => rw [split, cutAfterSelect?_blanks_append leadBlank _ rfl,
    cutAfterSelect?_append_marks noWord, found]
  rfl

theorem cutBeforeFrom?_eq_some_iff {nesting : Nesting} {before : Option Char}
    {text body tail : Text} :
    cutBeforeFrom? nesting before text = some (body, tail) ↔
      text = body ++ tail ∧ nesting.after body = .top ∧
        startsFrom (lastOr before body) tail = true ∧
        startsAtTop startsFrom tail nesting before body = false := by
  induction text generalizing nesting before body with
  | nil =>
      constructor
      · intro found
        cases found
      · rintro ⟨split, -, starts, -⟩
        obtain ⟨-, empty⟩ := List.append_eq_nil_iff.mp split.symm
        exact absurd empty (ne_nil_of_startsFrom starts)
  | cons c text induction =>
      rw [cutBeforeFrom?]
      split
      next here =>
        rw [Bool.and_eq_true, Nesting.isTop_iff] at here
        obtain ⟨top, starts⟩ := here
        constructor
        · intro found
          cases found
          exact ⟨rfl, top, starts, rfl⟩
        · rintro ⟨split, -, -, silent⟩
          cases body with
          | nil => rw [split]; rfl
          | cons d body =>
              rw [List.cons_append, List.cons.injEq] at split
              obtain ⟨rfl, rfl⟩ := split
              rw [startsAtTop, Nesting.isTop_iff.mpr top, startsFrom, starts] at silent
              cases silent
      next notHere =>
        rw [Option.map_eq_some_iff]
        constructor
        · rintro ⟨⟨later, behind⟩, found, equal⟩
          cases equal
          obtain ⟨rfl, top, starts, silent⟩ := induction.mp found
          refine ⟨rfl, top, by rw [lastOr_cons]; exact starts, ?_⟩
          rw [startsAtTop, silent, Bool.or_false]
          simpa [startsFrom] using notHere
        · rintro ⟨split, top, starts, silent⟩
          cases body with
          | nil =>
              rw [List.nil_append] at split
              subst split
              refine absurd ?_ notHere
              rw [Bool.and_eq_true, Nesting.isTop_iff]
              exact ⟨top, starts⟩
          | cons d body =>
              rw [List.cons_append, List.cons.injEq] at split
              obtain ⟨rfl, rfl⟩ := split
              rw [startsAtTop, Bool.or_eq_false_iff] at silent
              rw [lastOr_cons] at starts
              exact ⟨(body, tail), induction.mpr ⟨rfl, top, starts, silent.2⟩, rfl⟩

theorem SelectClause.locate?_eq_some_iff {sql : Text} {clause : SelectClause} :
    locate? sql = some clause ↔
      cutAfterSelect? none sql = some (clause.head, clause.fields ++ clause.tail) ∧
        cutBeforeFrom? (Nesting.top.after clause.head) clause.head.getLast?
          (clause.fields ++ clause.tail) = some (clause.fields, clause.tail) := by
  rw [locate?]
  constructor
  · intro located
    split at located
    · cases located
    next head rest selected =>
      split at located
      · cases located
      next fields tail found =>
        cases located
        obtain ⟨rfl, -⟩ := cutBeforeFrom?_eq_some_iff.mp found
        exact ⟨selected, found⟩
  · rintro ⟨selected, found⟩
    simp only [selected, found]

theorem eq_append_of_locate? {sql : Text} {clause : SelectClause}
    (located : SelectClause.locate? sql = some clause) :
    sql = clause.head ++ (clause.fields ++ clause.tail) := by
  obtain ⟨selected, found⟩ := SelectClause.locate?_eq_some_iff.mp located
  obtain ⟨split, -⟩ := cutAfterSelect?_eq_some selected
  exact split

/-- Marks behind a statement belong to what follows its select list. -/
theorem locate?_append_marks (text : Text) {marks : Text}
    (noWord : ∀ c ∈ marks, isWord c = false) :
    SelectClause.locate? (text ++ marks) =
      (SelectClause.locate? text).map fun clause =>
        { clause with tail := clause.tail ++ marks } := by
  rw [SelectClause.locate?, SelectClause.locate?, cutAfterSelect?_append_marks noWord]
  cases cutAfterSelect? none text with
  | none => rfl
  | some cut =>
      simp only [Option.map_some, cutBeforeFrom?_append_marks noWord]
      cases cutBeforeFrom? (Nesting.top.after cut.1) cut.1.getLast? cut.2 <;> rfl

theorem locate?_blanks_append {lead : Text} (blank : ∀ c ∈ lead, isBlank c = true)
    (text : Text) :
    SelectClause.locate? (lead ++ text) =
      (SelectClause.locate? text).map fun clause =>
        { clause with head := lead ++ clause.head } := by
  rw [SelectClause.locate?, SelectClause.locate?, cutAfterSelect?_blanks_append blank _ rfl]
  cases selected : cutAfterSelect? none text with
  | none => rfl
  | some cut =>
      obtain ⟨-, nonempty, -, -⟩ := cutAfterSelect?_eq_some selected
      simp only [Option.map_some, Nesting.after_append,
        Nesting.sane_top.after_of_isBlank blank, List.getLast?_append_of_ne_nil _ nonempty]
      cases cutBeforeFrom? (Nesting.top.after cut.1) cut.1.getLast? cut.2 <;> rfl

theorem locate?_trim (sql : Text) :
    ∃ lead trailing, (∀ c ∈ lead, isBlank c = true) ∧
      SelectClause.locate? sql = (SelectClause.locate? (trim sql)).map fun clause =>
        ⟨lead ++ clause.head, clause.fields, clause.tail ++ trailing⟩ := by
  obtain ⟨lead, trailing, split, leadBlank, trailingBlank⟩ := exists_trim sql
  have noWord : ∀ c ∈ trailing, isWord c = false :=
    fun c member => isWord_of_isBlank (trailingBlank c member)
  refine ⟨lead, trailing, leadBlank, ?_⟩
  conv_lhs => rw [split, locate?_blanks_append leadBlank, locate?_append_marks _ noWord,
    Option.map_map]
  rfl

theorem afterBlanks?_eq_some {text rest : Text} (found : afterBlanks? text = some rest) :
    ∃ blanks, text = blanks ++ rest ∧ blanks ≠ [] ∧ ∀ c ∈ blanks, isBlank c = true := by
  cases text with
  | nil => cases found
  | cons c text =>
      rw [afterBlanks?] at found
      split at found
      next blank =>
        cases found
        refine ⟨c :: text.takeWhile isBlank, ?_, List.cons_ne_nil _ _, ?_⟩
        · rw [List.cons_append, trimLeft, List.takeWhile_append_dropWhile]
        · intro d member
          rcases List.mem_cons.mp member with rfl | later
          · exact blank
          · exact List.mem_takeWhile_imp later
      next => cases found

theorem afterAs?_eq_some {text rest : Text} (found : afterAs? text = some rest) :
    ∃ left word right, text = left ++ (word ++ (right ++ rest)) ∧
      left ≠ [] ∧ (∀ c ∈ left, isBlank c = true) ∧ folded word = folded "AS" ∧
      right ≠ [] ∧ (∀ c ∈ right, isBlank c = true) := by
  rw [afterAs?] at found
  split at found
  · cases found
  next afterLeft leftFound =>
    split at found
    · cases found
    next afterWord wordFound =>
      obtain ⟨left, rfl, leftSome, leftBlank⟩ := afterBlanks?_eq_some leftFound
      obtain ⟨word, rfl, same⟩ := afterFolded?_eq_some_iff.mp wordFound
      obtain ⟨right, rfl, rightSome, rightBlank⟩ := afterBlanks?_eq_some found
      exact ⟨left, word, right, rfl, leftSome, leftBlank, same, rightSome, rightBlank⟩

theorem wordlike_as : Wordlike "AS" :=
  wordlike_of_all (by decide) (by decide)

private theorem lastOr_all_of_blank {blanks : Text} (nonempty : blanks ≠ [])
    (blank : ∀ c ∈ blanks, isBlank c = true) (before : Option Char) :
    (lastOr before blanks).all isBlank = true := by
  rw [lastOr, List.getLast?_eq_some_getLast nonempty]
  exact blank _ (List.getLast_mem nonempty)

theorem startsAtTop_of_afterAs? {text rest : Text} (found : afterAs? text = some rest)
    (before : Option Char) : startsAtTop startsAs [] .top before text = true := by
  obtain ⟨left, word, right, rfl, leftSome, leftBlank, same, rightSome, rightBlank⟩ :=
    afterAs?_eq_some found
  have stays : Nesting.top.after left = .top := Nesting.sane_top.after_of_isBlank leftBlank
  have nonempty := (wordlike_as.of_folded same.symm).nonempty
  apply startsAtTop_of_starts stays (by simp [nonempty])
  obtain ⟨c, blanks, rfl⟩ := List.exists_cons_of_ne_nil rightSome
  rw [List.append_nil, startsAs, lastOr_all_of_blank leftSome leftBlank,
    afterFolded?_of_folded _ same]
  exact rightBlank c List.mem_cons_self

theorem cutAtLastAs?_eq_none {nesting : Nesting} {before : Option Char} {text : Text}
    (free : startsAtTop startsAs [] nesting before text = false) (skip : Nat) :
    cutAtLastAs? skip nesting text = none := by
  induction text generalizing skip nesting before with
  | nil => cases skip <;> rfl
  | cons c text induction =>
      have later := (Bool.or_eq_false_iff.mp free).2
      cases skip with
      | succ skip => rw [cutAtLastAs?, induction later]; rfl
      | zero =>
          rw [cutAtLastAs?]
          split
          next rest found =>
            have below : nesting.isTop = false := by
              cases top : nesting.isTop with
              | false => rfl
              | true =>
                  rw [Nesting.isTop_iff.mp top, startsAtTop_of_afterAs? found] at free
                  cases free
            simp only [induction later, below]
            rfl
          next => rw [induction later]; rfl

theorem cutAtLastAs?_skip (nesting : Nesting) (skipped text : Text) :
    cutAtLastAs? skipped.length nesting (skipped ++ text) =
      (cutAtLastAs? 0 (nesting.after skipped) text).map fun cut => (skipped ++ cut.1, cut.2) := by
  induction skipped generalizing nesting with
  | nil => simp
  | cons c skipped induction =>
      rw [List.length_cons, List.cons_append, cutAtLastAs?, induction, Option.map_map]
      rfl

/-- A text that a blank may follow without completing an `AS`. -/
structure Complete (text : Text) : Prop where
  last : ∀ c ∈ text.getLast?, isBlank c = false
  ending : ∀ front c word, text = front ++ c :: word → isBlank c = true →
    folded word ≠ folded "AS"

theorem Complete.tail {c : Char} {text : Text} (complete : Complete (c :: text)) :
    Complete text := by
  constructor
  · intro d final
    apply complete.last d
    cases text with
    | nil => cases final
    | cons e text => simpa using final
  · intro front d word split
    exact complete.ending (c :: front) d word (by rw [split]; rfl)

theorem Complete.length_le {text tail rest : Text} (complete : Complete text)
    (nonempty : text ≠ []) (blank : tail.head?.all isBlank = true)
    (found : afterAs? (text ++ tail) = some rest) : tail.length ≤ rest.length := by
  obtain ⟨left, word, right, split, leftSome, leftBlank, same, rightSome, rightBlank⟩ :=
    afterAs?_eq_some found
  have letters := (wordlike_as.of_folded same.symm).isWord
  have unblank : ∀ front blanks, text = front ++ blanks → blanks ≠ [] →
      ¬∀ c ∈ blanks, isBlank c = true := by
    intro front blanks parts nonempty allBlank
    have final := complete.last (blanks.getLast nonempty)
      (by simp [parts, List.getLast?_append, List.getLast?_eq_some_getLast nonempty])
    rw [allBlank _ (List.getLast_mem nonempty)] at final
    cases final
  have unended : text ≠ left ++ word := by
    intro parts
    have last := leftBlank _ (List.getLast_mem leftSome)
    refine complete.ending left.dropLast _ word ?_ last same
    rw [parts]
    nth_rewrite 1 [← List.dropLast_append_getLast leftSome]
    simp
  rcases List.append_eq_append_iff.mp split with ⟨more, rfl, -⟩ | ⟨inner, parts, behind⟩
  · refine absurd ?_ (unblank [] text rfl nonempty)
    intro c member
    exact leftBlank c (List.mem_append_left more member)
  rcases List.append_eq_append_iff.mp behind with ⟨blanks, rfl, within⟩ | ⟨more, rfl, beyond⟩
  · rcases List.append_eq_append_iff.mp within with ⟨more, -, rfl⟩ | ⟨more, rfl, -⟩
    · simp
    · by_cases none : blanks = []
      · rw [none, List.append_nil] at parts
        exact absurd parts unended
      · refine absurd ?_ (unblank (left ++ word) blanks (by rw [parts, List.append_assoc]) none)
        intro c member
        exact rightBlank c (List.mem_append_left more member)
  · cases more with
    | nil =>
        rw [List.append_nil] at unended
        exact absurd parts unended
    | cons d more =>
        have letter := letters d (by simp)
        rw [beyond] at blank
        have marked : isBlank d = true := by simpa using blank
        rw [isWord_of_isBlank marked] at letter
        cases letter

/-- The last `AS` of a text is found behind any complete beginning. -/
theorem Complete.cutAtLastAs?_append {text tail left right : Text} (complete : Complete text)
    (blank : tail.head?.all isBlank = true) {nesting : Nesting}
    (behind : cutAtLastAs? 0 (nesting.after text) tail = some (left, right)) {skip : Nat}
    (within : skip ≤ text.length) :
    cutAtLastAs? skip nesting (text ++ tail) = some (text ++ left, right) := by
  induction text generalizing skip nesting with
  | nil =>
      obtain rfl : skip = 0 := Nat.le_zero.mp within
      exact behind
  | cons c text induction =>
      have later : ∀ skip ≤ text.length,
          cutAtLastAs? skip (nesting.step c) (text ++ tail) = some (text ++ left, right) :=
        fun skip within => induction complete.tail behind within
      rw [List.cons_append]
      cases skip with
      | succ skip => rw [cutAtLastAs?, later skip (Nat.le_of_succ_le_succ within)]; rfl
      | zero =>
          rw [cutAtLastAs?]
          split
          next rest found =>
            have size := complete.length_le (List.cons_ne_nil c text) blank found
            have inside : (c :: (text ++ tail)).length - rest.length - 1 ≤ text.length := by
              simp only [List.length_cons, List.length_append]
              omega
            simp only [later _ inside]
            rfl
          next => rw [later 0 (Nat.zero_le _)]; rfl

namespace Closed

/-- A closed text ends at top level, where no `AS` may end it. -/
theorem complete {text : Text} (closed : Closed text) : Complete text := by
  constructor
  · exact closed.tight.last
  rintro front c word rfl blank same
  have letters := (wordlike_as.of_folded same.symm).isWord
  have top : Nesting.top.after (front ++ [c]) = .top := by
    have whole := closed.balanced
    rw [← List.singleton_append, ← List.append_assoc, Nesting.after_append,
      (Nesting.sane_top.after _).after_of_isWord letters] at whole
    exact whole
  have nonempty := (wordlike_as.of_folded same.symm).nonempty
  have starts : startsAs (lastOr none (front ++ [c])) (word ++ []) = true := by
    rw [startsAs, afterFolded?_of_folded [] same]
    simp [lastOr, blank]
  have shown := startsAtTop_of_starts top nonempty starts
  rw [List.append_assoc, List.singleton_append, closed.noAs] at shown
  cases shown

end Closed

end SqlFanout.Sql
