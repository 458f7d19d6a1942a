import Mathlib.Data.List.DropRight
import Mathlib.Data.List.TakeWhile
import SqlFanout.Text.Blank

/-!
# Lines and margins

Cutting a text at its line feeds undoes writing lines below each other, and
trimming leaves a text alone whose ends are not blank.  A text of the second
kind that is not empty is called tight: joining tight texts gives a tight text
again, so that it survives any further cutting and trimming.
-/

namespace SqlFanout.Text

theorem dropTrailing_append_of_all {p : Char → Bool} {tail : Text}
    (text : Text) (all : ∀ c ∈ tail, p c = true) :
    dropTrailing p (text ++ tail) = dropTrailing p text := by
  have backwards : ∀ c ∈ tail.reverse, p c = true := by simpa using all
  rw [dropTrailing, dropTrailing, List.reverse_append, List.dropWhile_append_of_pos backwards]

theorem dropTrailing_eq_self {p : Char → Bool} {text : Text}
    (last : ∀ c ∈ text.getLast?, p c = false) : dropTrailing p text = text := by
  apply List.rdropWhile_eq_self_iff.mpr
  intro nonempty
  rw [last _ (List.getLast?_eq_some_getLast nonempty)]
  exact Bool.false_ne_true

/-- What trimming on the right removes, and where it stops. -/
theorem exists_dropTrailing_append (p : Char → Bool) (text : Text) :
    ∃ tail, text = dropTrailing p text ++ tail ∧ (∀ c ∈ tail, p c = true) ∧
      ∀ c ∈ (dropTrailing p text).getLast?, p c = false := by
  refine ⟨text.rtakeWhile p, (List.rdropWhile_append_rtakeWhile).symm,
    fun c => List.mem_rtakeWhile_imp, ?_⟩
  intro c last
  obtain ⟨nonempty, rfl⟩ := List.mem_getLast?_eq_getLast last
  exact Bool.eq_false_iff.mpr (List.rdropWhile_last_not p text nonempty)

/-- A text that is not empty and has no blank at either end. -/
structure Tight (text : Text) : Prop where
  nonempty : text ≠ []
  first : ∀ c ∈ text.head?, isBlank c = false
  last : ∀ c ∈ text.getLast?, isBlank c = false

theorem tight_iff {text : Text} :
    Tight text ↔ text ≠ [] ∧ text.head?.all (fun c => !isBlank c) = true ∧
      text.getLast?.all (fun c => !isBlank c) = true := by
  simp only [Option.all_eq_true, Bool.not_eq_true']
  constructor
  · intro tight
    exact ⟨tight.nonempty, tight.first, tight.last⟩
  · rintro ⟨nonempty, first, last⟩
    exact ⟨nonempty, first, last⟩

instance (text : Text) : Decidable (Tight text) :=
  decidable_of_iff _ tight_iff.symm

theorem trimLeft_eq_self {text : Text}
    (first : ∀ c ∈ text.head?, isBlank c = false) : trimLeft text = text := by
  cases text with
  | nil => rfl
  | cons c rest => simp [trimLeft, first c (by simp)]

namespace Tight

theorem trim_append {text : Text} (tight : Tight text) (tail : Text)
    (blank : ∀ c ∈ tail, isBlank c = true) : trim (text ++ tail) = text := by
  have start : trimLeft (text ++ tail) = text ++ tail := by
    apply trimLeft_eq_self
    intro c head
    cases text with
    | nil => exact absurd rfl tight.nonempty
    | cons d rest => exact tight.first c (by simpa using head)
  rw [trim, start, trimRight, dropTrailing_append_of_all text blank]
  exact dropTrailing_eq_self tight.last

theorem trim_between {text : Text} (tight : Tight text) {lead trailing : Text}
    (leadBlank : ∀ c ∈ lead, isBlank c = true) (trailingBlank : ∀ c ∈ trailing, isBlank c = true) :
    trim (lead ++ (text ++ trailing)) = text := by
  have start : trimLeft (lead ++ (text ++ trailing)) = trimLeft (text ++ trailing) :=
    List.dropWhile_append_of_pos leadBlank
  rw [trim, start]
  exact tight.trim_append trailing trailingBlank

theorem trim_eq {text : Text} (tight : Tight text) : trim text = text := by
  simpa using tight.trim_append [] (by simp)

theorem not_blank_of_append {left right : Text} (tight : Tight (left ++ right))
    (nonempty : left ≠ []) : isBlankText left = false := by
  cases left with
  | nil => exact absurd rfl nonempty
  | cons c rest => simp [isBlankText, tight.first c (by simp)]

theorem not_blank {text : Text} (tight : Tight text) : isBlankText text = false := by
  rw [← List.append_nil text] at tight
  exact tight.not_blank_of_append (by simpa using tight.nonempty)

theorem append {left right : Text} (leftTight : Tight left)
    (rightTight : Tight right) (middle : Text) :
    Tight (left ++ (middle ++ right)) := by
  refine ⟨by simp [leftTight.nonempty], ?_, ?_⟩
  · intro c head
    cases left with
    | nil => exact absurd rfl leftTight.nonempty
    | cons d rest => exact leftTight.first c (by simpa using head)
  · intro c final
    apply rightTight.last c
    rw [← List.append_assoc, List.getLast?_append] at final
    cases lastEq : right.getLast? with
    | none => exact absurd (List.getLast?_eq_none_iff.mp lastEq) rightTight.nonempty
    | some d => simpa [lastEq] using final

theorem replace {left inner right : Text} (tight : Tight (left ++ (inner ++ right)))
    (leftSome : left ≠ []) (rightSome : right ≠ []) (middle : Text) :
    Tight (left ++ (middle ++ right)) := by
  have last : ∀ inner : Text, (left ++ (inner ++ right)).getLast? = right.getLast? := by
    intro inner
    rw [← List.append_assoc, List.getLast?_append, List.getLast?_eq_some_getLast rightSome]
    rfl
  refine ⟨by simp [leftSome], ?_, ?_⟩
  · intro c first
    cases left with
    | nil => exact absurd rfl leftSome
    | cons d left => exact tight.first c (by simpa using first)
  · intro c final
    apply tight.last c
    rw [last] at final ⊢
    exact final

theorem join {parts : List Text} (separator : Text) (some : parts ≠ [])
    (tight : ∀ part ∈ parts, Tight part) : Tight (join separator parts) := by
  induction parts with
  | nil => exact absurd rfl some
  | cons part parts induction =>
      have partTight : Tight part := tight part List.mem_cons_self
      cases parts with
      | nil => simpa [Text.join, List.intercalate] using partTight
      | cons next parts =>
          have restTight : Tight (Text.join separator (next :: parts)) :=
            induction (by simp) fun other member =>
              tight other (List.mem_cons_of_mem part member)
          simpa [Text.join, List.intercalate, List.intersperse] using
            partTight.append restTight separator

end Tight

theorem isBlankText_iff {text : Text} :
    isBlankText text = true ↔ ∀ c ∈ text, isBlank c = true := by
  simp [isBlankText]

theorem isBlankText_append (left right : Text) :
    isBlankText (left ++ right) = (isBlankText left && isBlankText right) :=
  List.all_append

theorem trim_of_blank {text : Text} (blank : isBlankText text = true) :
    trim text = [] := by
  have gone : trimLeft text = [] :=
    List.dropWhile_eq_nil_iff.mpr (isBlankText_iff.mp blank)
  rw [trim, gone]
  rfl

/-- Trimming a text that is not blank leaves its part between the outermost
characters that are not blank. -/
theorem tight_trim {text : Text} (present : isBlankText text = false) :
    Tight (trim text) := by
  obtain ⟨c, rest, start⟩ : ∃ c rest, trimLeft text = c :: rest := by
    apply List.exists_cons_of_ne_nil
    intro gone
    have blank : isBlankText text = true :=
      isBlankText_iff.mpr (List.dropWhile_eq_nil_iff.mp gone)
    simp [blank] at present
  have first : isBlank c = false := by
    have head := List.head?_dropWhile_not isBlank text
    rw [trimLeft] at start
    simpa [start] using head
  obtain ⟨tail, split, tailBlank, last⟩ :=
    exists_dropTrailing_append isBlank (c :: rest)
  rw [trim, start, trimRight]
  cases kept : dropTrailing isBlank (c :: rest) with
  | nil =>
      rw [kept, List.nil_append] at split
      have blank := tailBlank c (split ▸ List.mem_cons_self)
      simp [first] at blank
  | cons d front =>
      rw [kept] at split last
      have same : c = d := by simpa using congrArg List.head? split
      subst same
      exact ⟨by simp, by simpa using first, last⟩

theorem tight_trim_of_ne_nil {text : Text} (nonempty : trim text ≠ []) : Tight (trim text) := by
  apply tight_trim
  cases blank : isBlankText text with
  | false => rfl
  | true => exact absurd (trim_of_blank blank) nonempty

theorem exists_trim (text : Text) :
    ∃ lead trailing, text = lead ++ (trim text ++ trailing) ∧
      (∀ c ∈ lead, isBlank c = true) ∧ ∀ c ∈ trailing, isBlank c = true := by
  obtain ⟨trailing, trimmed, blank, -⟩ := exists_dropTrailing_append isBlank (trimLeft text)
  change trimLeft text = trim text ++ trailing at trimmed
  refine ⟨text.takeWhile isBlank, trailing, ?_, ?_, blank⟩
  · rw [← trimmed, trimLeft, List.takeWhile_append_dropWhile]
  · intro c member
    exact List.mem_takeWhile_imp member

theorem mem_of_mem_trim {c : Char} {text : Text} (member : c ∈ trim text) :
    c ∈ text := by
  obtain ⟨lead, trailing, split, -, -⟩ := exists_trim text
  rw [split]
  exact List.mem_append_right lead (List.mem_append_left trailing member)

theorem cutAt_eq_splitOn (mark : Char) (text : Text) :
    cutAt mark text = text.splitOn mark := by
  induction text with
  | nil => rfl
  | cons c rest induction =>
      rw [List.splitOn_cons_eq_if_modifyHead, cutAt, induction]
      by_cases same : c = mark
      · simp [same]
      · cases pieces : rest.splitOn mark with
        | nil => exact absurd pieces (List.splitOn_ne_nil mark rest)
        | cons piece pieces => simp [same]

theorem cutAt_of_not_mem {mark : Char} {text : Text} (absent : mark ∉ text) :
    cutAt mark text = [text] := by
  rw [cutAt_eq_splitOn, List.splitOn_eq_singleton absent]

theorem not_mem_of_mem_cutAt {mark : Char} {text piece : Text}
    (member : piece ∈ cutAt mark text) : mark ∉ piece := by
  rw [cutAt_eq_splitOn] at member
  induction text generalizing piece with
  | nil =>
      have empty : piece = [] := by simpa using member
      simp [empty]
  | cons c rest induction =>
      rw [List.splitOn_cons_eq_if_modifyHead] at member
      by_cases same : c = mark
      · rcases List.mem_cons.mp (by simpa [same] using member) with empty | later
        · simp [empty]
        · exact induction later
      · cases pieces : rest.splitOn mark with
        | nil => exact absurd pieces (List.splitOn_ne_nil mark rest)
        | cons first others =>
            rw [pieces] at member induction
            rcases List.mem_cons.mp (by simpa [same] using member) with longer | later
            · have firstAbsent : mark ∉ first := induction List.mem_cons_self
              simp [longer, firstAbsent, Ne.symm same]
            · exact induction (List.mem_cons_of_mem first later)

theorem mem_join {c : Char} {separator : Text} {parts : List Text}
    (member : c ∈ join separator parts) :
    c ∈ separator ∨ ∃ part ∈ parts, c ∈ part := by
  induction parts with
  | nil => simp [join] at member
  | cons part parts induction =>
      cases parts with
      | nil => exact .inr ⟨part, List.mem_cons_self, by simpa [join] using member⟩
      | cons next parts =>
          rw [join, List.intercalate_cons_cons, List.mem_append,
            List.mem_append] at member
          rcases member with (inPart | inSeparator) | inRest
          · exact .inr ⟨part, List.mem_cons_self, inPart⟩
          · exact .inl inSeparator
          · rcases induction inRest with inSeparator | ⟨other, member, inOther⟩
            · exact .inl inSeparator
            · exact .inr ⟨other, List.mem_cons_of_mem part member, inOther⟩

theorem mem_join_of_mem {c : Char} {part : Text} {parts : List Text}
    (separator : Text) (member : part ∈ parts) (inPart : c ∈ part) :
    c ∈ join separator parts := by
  induction parts with
  | nil => simp at member
  | cons first parts induction =>
      cases parts with
      | nil =>
          have same : part = first := by simpa using member
          simpa [join, ← same] using inPart
      | cons next parts =>
          rw [join, List.intercalate_cons_cons, List.mem_append, List.mem_append]
          rcases List.mem_cons.mp member with same | later
          · exact .inl (.inl (same ▸ inPart))
          · exact .inr (induction later)

theorem exists_mem_cutAt {mark c : Char} {text : Text} (member : c ∈ text)
    (differ : c ≠ mark) : ∃ piece ∈ cutAt mark text, c ∈ piece := by
  have whole : join [mark] (text.splitOn mark) = text := List.intercalate_splitOn mark
  rw [cutAt_eq_splitOn]
  rcases mem_join (whole ▸ member) with here | found
  · exact absurd (List.mem_singleton.mp here) differ
  · exact found

theorem unlines_append_lineFeed {parts : List Text} (some : parts ≠ []) :
    unlines parts ++ "\n" = List.intercalate ['\n'] (parts ++ [[]]) := by
  induction parts with
  | nil => exact absurd rfl some
  | cons part parts induction =>
      cases parts with
      | nil => simp [unlines, join]
      | cons next parts =>
          have rest := induction (by simp)
          simp only [unlines, join, List.cons_append,
            List.intercalate_cons_cons, List.append_assoc] at rest ⊢
          rw [rest]
          rfl

/-- Lines written below each other, the last one ended too, are read back with
an empty line behind them. -/
theorem lines_unlines {parts : List Text} (some : parts ≠ [])
    (absent : ∀ part ∈ parts, '\n' ∉ part) :
    lines (unlines parts ++ "\n") = parts ++ [[]] := by
  rw [unlines_append_lineFeed some, lines, cutAt_eq_splitOn]
  apply List.splitOn_intercalate
  · intro part member
    rcases List.mem_append.mp member with written | ending
    · exact absent part written
    · simp [List.mem_singleton.mp ending]
  · simp

theorem lines_unlines_of_ne_nil {parts : List Text} (some : parts ≠ [])
    (absent : ∀ part ∈ parts, '\n' ∉ part) : lines (unlines parts) = parts := by
  rw [lines, cutAt_eq_splitOn]
  exact List.splitOn_intercalate _ absent some

end SqlFanout.Text
