import Mathlib.Data.List.Basic
import SqlFanout.Proofs.Letters
import SqlFanout.Proofs.Scanning

/-!
# Words and marks

A text is a sequence of words, each a longest run of word characters, and of the
single characters between them.  The recognisers of table clauses start and stop
at the borders of words, so that what they do to a text can be told on its
tokens.  `spell_tokens` and `tokens_spell` say that texts and proper token lists
are the same thing.
-/

namespace SqlFanout.Text

/-- A text that consists of word characters in each of its spellings. -/
structure Wordlike (text : Text) : Prop where
  nonempty : text ≠ []
  letters : ∀ c ∈ text, ∀ d, sameLetter c d = true → isWord d = true

namespace Wordlike

theorem isWord {text : Text} (wordlike : Wordlike text) :
    ∀ c ∈ text, isWord c = true :=
  fun c member => wordlike.letters c member c (sameLetter_refl c)

theorem of_folded {left right : Text} (wordlike : Wordlike left)
    (same : folded left = folded right) : Wordlike right := by
  refine ⟨?_, ?_⟩
  · rintro rfl
    exact wordlike.nonempty (List.map_eq_nil_iff.mp same)
  · intro c member d related
    have foldedMember : fold c ∈ folded left := same ▸ List.mem_map_of_mem member
    obtain ⟨original, listed, equal⟩ := List.mem_map.mp foldedMember
    refine wordlike.letters original listed d ?_
    rw [sameLetter, beq_iff_eq] at related ⊢
    exact equal.trans related

theorem of_isNameChar {text : Text} (nonempty : text ≠ [])
    (name : ∀ c ∈ text, Sql.isNameChar c = true) : Wordlike text :=
  ⟨nonempty, fun c member _ same => Sql.isWord_of_sameLetter same (name c member)⟩

end Wordlike

theorem isWordAt_head?_append {word text : Text} (nonempty : word ≠ [])
    (letters : ∀ c ∈ word, isWord c = true) :
    isWordAt (word ++ text).head? = true := by
  cases word with
  | nil => exact absurd rfl nonempty
  | cons c word => exact letters c List.mem_cons_self

/-- In front of a word, a given beginning is met exactly if the word is its
spelling; otherwise no word border follows it. -/
theorem afterFolded?_word {start word text rest : Text} (wordlike : Wordlike start)
    (letters : ∀ c ∈ word, isWord c = true) (border : isWordAt text.head? = false)
    (found : afterFolded? start (word ++ text) = some rest) :
    (folded word = folded start ∧ rest = text) ∨ isWordAt rest.head? = true := by
  obtain ⟨head, split, same⟩ := afterFolded?_eq_some_iff.mp found
  rcases List.append_eq_append_iff.mp split with ⟨more, rfl, rfl⟩ | ⟨more, rfl, rfl⟩
  · cases more with
    | nil => exact .inl ⟨by simpa using same, rfl⟩
    | cons c more =>
        have inside : c ∈ word ++ c :: more := by simp
        have letter := (wordlike.of_folded same.symm).isWord c inside
        simp [isWordAt, letter] at border
  · cases more with
    | nil => exact .inl ⟨by simpa using same, rfl⟩
    | cons c more => exact .inr (letters c (by simp))

theorem afterFolded?_of_border {start text : Text} (wordlike : Wordlike start)
    (border : isWordAt text.head? = false) : afterFolded? start text = none := by
  cases found : afterFolded? start text with
  | none => rfl
  | some rest =>
      obtain ⟨head, rfl, same⟩ := afterFolded?_eq_some_iff.mp found
      have spelled := wordlike.of_folded same.symm
      rw [isWordAt_head?_append spelled.nonempty spelled.isWord] at border
      cases border

/-- A continuation that refuses to start inside a word sees whole words only. -/
theorem afterFolded?_bind_word {β : Type} {start word text : Text}
    {next : Text → Option β} (wordlike : Wordlike start)
    (letters : ∀ c ∈ word, isWord c = true) (border : isWordAt text.head? = false)
    (refuses : ∀ rest, isWordAt rest.head? = true → next rest = none) :
    (afterFolded? start (word ++ text)).bind next =
      if folded word = folded start then next text else none := by
  split
  next same => rw [afterFolded?_of_folded text same, Option.bind_some]
  next different =>
    cases found : afterFolded? start (word ++ text) with
    | none => rfl
    | some rest =>
        rcases afterFolded?_word wordlike letters border found with ⟨same, -⟩ | inside
        · exact absurd same different
        · exact refuses rest inside

namespace Finder

variable {α : Type} {find : Finder α}

/-- A finder whose finds start at the border of a word or outside of words. -/
def StartsAtBorder (find : Finder α) : Prop :=
  ∀ before text, isWordAt before = true → find before text = none

theorem scanFrom_word (starts : StartsAtBorder find) {letters text : Text}
    (nonempty : letters ≠ []) (isWord : ∀ c ∈ letters, isWord c = true)
    {before : Option Char} (silent : find before (letters ++ text) = none) :
    scanFrom find 0 before (letters ++ text) =
      letters.map .plain ++ scanFrom find 0 (lastOr before letters) text := by
  induction letters generalizing before with
  | nil => exact absurd rfl nonempty
  | cons c letters induction =>
      rw [List.cons_append] at silent
      rw [List.cons_append, scanFrom_plain silent, lastOr_cons, List.map_cons,
        List.cons_append]
      cases letters with
      | nil => rfl
      | cons d letters =>
          have inside : isWordAt (some c) = true := isWord c List.mem_cons_self
          rw [induction (by simp) (fun e member => isWord e (List.mem_cons_of_mem c member))
            (starts (some c) _ inside)]

theorem findAllFrom_word (starts : StartsAtBorder find) {letters text : Text}
    (nonempty : letters ≠ []) (isWord : ∀ c ∈ letters, Text.isWord c = true)
    {before : Option Char} (silent : find before (letters ++ text) = none) :
    findAllFrom find before (letters ++ text) =
      findAllFrom find (lastOr before letters) text := by
  rw [findAllFrom, scanFrom_word starts nonempty isWord silent, List.filterMap_append,
    List.filterMap_map]
  simp [findAllFrom]

theorem substituteFrom_word (starts : StartsAtBorder find) (replacement : α → Text)
    {letters text : Text} (nonempty : letters ≠ [])
    (isWord : ∀ c ∈ letters, Text.isWord c = true) {before : Option Char}
    (silent : find before (letters ++ text) = none) :
    substituteFrom find replacement before (letters ++ text) =
      letters ++ substituteFrom find replacement (lastOr before letters) text := by
  rw [substituteFrom, scanFrom_word starts nonempty isWord silent, List.flatMap_append,
    List.flatMap_map]
  simp [substituteFrom]

end Finder

end SqlFanout.Text

namespace SqlFanout.Sql

open Text

inductive Token where
  | word (letters : Text)
  | mark (c : Char)
  deriving DecidableEq

namespace Token

def spelling : Token → Text
  | word letters => letters
  | mark c => [c]

end Token

def spell (tokens : List Token) : Text :=
  tokens.flatMap Token.spelling

@[simp] theorem spell_nil : spell [] = [] := rfl

@[simp] theorem spell_cons (token : Token) (tokens : List Token) :
    spell (token :: tokens) = token.spelling ++ spell tokens := rfl

@[simp] theorem spell_append (left right : List Token) :
    spell (left ++ right) = spell left ++ spell right :=
  List.flatMap_append

def tokens : Text → List Token
  | [] => []
  | c :: rest =>
      if isWord c then
        match tokens rest with
        | .word letters :: others => .word (c :: letters) :: others
        | others => .word [c] :: others
      else .mark c :: tokens rest

theorem spell_tokens (text : Text) : spell (tokens text) = text := by
  induction text with
  | nil => rfl
  | cons c rest induction =>
      rw [tokens]
      split
      · split
        next letters others shape =>
          rw [shape] at induction
          simpa [Token.spelling] using induction
        next => simpa [Token.spelling] using induction
      · simpa [Token.spelling] using induction

def opensWithWord : List Token → Bool
  | .word _ :: _ => true
  | _ => false

/-- The mark that a list of tokens begins with. -/
def leadingMark : List Token → Option Char
  | .mark c :: _ => some c
  | _ => none

/-- Words are longest runs of word characters, and marks are no word characters. -/
inductive Proper : List Token → Prop where
  | nil : Proper []
  | mark {c : Char} {others : List Token} (noWord : isWord c = false)
      (proper : Proper others) : Proper (.mark c :: others)
  | word {letters : Text} {others : List Token} (nonempty : letters ≠ [])
      (isWord : ∀ c ∈ letters, isWord c = true)
      (separate : opensWithWord others = false) (proper : Proper others) :
      Proper (.word letters :: others)

theorem Proper.tail {token : Token} {others : List Token}
    (proper : Proper (token :: others)) : Proper others := by
  cases proper with
  | mark _ proper => exact proper
  | word _ _ _ proper => exact proper

theorem Proper.of_append {left right : List Token} (proper : Proper (left ++ right)) :
    Proper right := by
  induction left with
  | nil => exact proper
  | cons token left induction => exact induction proper.tail

theorem Proper.of_append_left {left right : List Token} (proper : Proper (left ++ right)) :
    Proper left := by
  induction left with
  | nil => exact .nil
  | cons token left induction =>
      cases proper with
      | mark noWord proper => exact .mark noWord (induction proper)
      | word nonempty isWord separate proper =>
          refine .word nonempty isWord ?_ (induction proper)
          cases left with
          | nil => rfl
          | cons next left => cases next <;> exact separate

theorem Proper.append_marks {list : List Token} (proper : Proper list) {marks : Text}
    (noWord : ∀ c ∈ marks, isWord c = false) : Proper (list ++ marks.map .mark) := by
  induction proper with
  | nil =>
      induction marks with
      | nil => exact .nil
      | cons c marks induction =>
          exact .mark (noWord c List.mem_cons_self)
            (induction fun d member => noWord d (List.mem_cons_of_mem c member))
  | mark outside proper induction => exact .mark outside induction
  | @word letters others nonempty isWord separate proper induction =>
      refine .word nonempty isWord ?_ induction
      cases others with
      | nil => cases marks <;> rfl
      | cons token others => cases token <;> exact separate

theorem Proper.separate {letters : Text} {others : List Token}
    (proper : Proper (.word letters :: others)) : opensWithWord others = false := by
  cases proper with
  | word _ _ separate _ => exact separate

theorem proper_tokens (text : Text) : Proper (tokens text) := by
  induction text with
  | nil => exact .nil
  | cons c rest induction =>
      rw [tokens]
      split
      next letter =>
        split
        next letters others shape =>
          rw [shape] at induction
          cases induction with
          | word _ isWord separate proper =>
              refine .word (by simp) ?_ separate proper
              simpa [letter] using isWord
        next noWord =>
          refine .word (by simp) (by simpa using letter) ?_ induction
          cases shape : tokens rest with
          | nil => rfl
          | cons token others =>
              cases token with
              | mark => rfl
              | word letters => exact absurd shape (noWord letters others)
      next noWord => exact .mark (by simpa using noWord) induction

theorem tokens_append_word {letters : Text} (nonempty : letters ≠ [])
    (isWord : ∀ c ∈ letters, isWord c = true) {text : Text}
    (separate : opensWithWord (tokens text) = false) :
    tokens (letters ++ text) = .word letters :: tokens text := by
  induction letters with
  | nil => exact absurd rfl nonempty
  | cons c letters induction =>
      have letter := isWord c List.mem_cons_self
      cases letters with
      | nil =>
          rw [List.cons_append, List.nil_append, tokens, if_pos letter]
          split
          next other others shape => simp [shape, opensWithWord] at separate
          next => rfl
      | cons d letters =>
          have rest := induction (by simp) fun e member =>
            isWord e (List.mem_cons_of_mem c member)
          rw [List.cons_append, tokens, if_pos letter, rest]

theorem tokens_spell {list : List Token} (proper : Proper list) :
    tokens (spell list) = list := by
  induction proper with
  | nil => rfl
  | mark noWord proper induction =>
      rw [spell_cons, Token.spelling, List.cons_append, List.nil_append, tokens, noWord,
        induction]
      rfl
  | word nonempty isWord separate proper induction =>
      rw [spell_cons, Token.spelling, tokens_append_word nonempty isWord, induction]
      rw [induction]
      exact separate

theorem spell_map_mark (marks : Text) : spell (marks.map .mark) = marks := by
  induction marks with
  | nil => rfl
  | cons c marks induction => rw [List.map_cons, spell_cons, induction]; rfl

theorem tokens_append_marks (text : Text) {marks : Text}
    (noWord : ∀ c ∈ marks, isWord c = false) :
    tokens (text ++ marks) = tokens text ++ marks.map .mark := by
  have proper := (proper_tokens text).append_marks noWord
  rw [← tokens_spell proper, spell_append, spell_tokens, spell_map_mark]

theorem tokens_marks_append {marks : Text} (noWord : ∀ c ∈ marks, isWord c = false)
    (text : Text) : tokens (marks ++ text) = marks.map .mark ++ tokens text := by
  induction marks with
  | nil => rfl
  | cons c marks induction =>
      rw [List.cons_append, tokens, noWord c List.mem_cons_self,
        induction fun d member => noWord d (List.mem_cons_of_mem c member)]
      rfl

theorem tokens_append_of_border {left : Text} (border : isWordAt left.getLast? = false)
    (right : Text) : tokens (left ++ right) = tokens left ++ tokens right := by
  induction left with
  | nil => rfl
  | cons c left induction =>
      by_cases single : left = []
      · subst single
        have noWord : isWord c = false := border
        simp [tokens, noWord]
      · have last := List.getLast?_append_of_ne_nil [c] single
        rw [List.singleton_append] at last
        rw [List.cons_append, tokens, tokens, induction (last ▸ border)]
        cases shape : tokens left with
        | nil => exact absurd (by simpa [shape] using (spell_tokens left).symm) single
        | cons token others => split <;> cases token <;> rfl

theorem isWordAt_spell_of_separate {list : List Token} (proper : Proper list)
    (separate : opensWithWord list = false) : isWordAt (spell list).head? = false := by
  cases proper with
  | nil => rfl
  | mark noWord => exact noWord
  | word => cases separate

theorem head?_spell_of_separate {list : List Token}
    (separate : opensWithWord list = false) : (spell list).head? = leadingMark list := by
  cases list with
  | nil => rfl
  | cons token others =>
      cases token with
      | mark => rfl
      | word => cases separate

end SqlFanout.Sql
