import SqlFanout.Proofs.Frames
import SqlFanout.Proofs.Lines

/-!
# Searching for a word

A word that does not hold a mark lies on one side of every occurrence of the mark, so
that it is searched for in each part of a marked text on its own
(`infix_append_mark_iff`).  A word that holds the mark once may also lie around it,
and then what stands next to the mark decides (`infix_around_mark_iff`).
-/

namespace SqlFanout.Text

theorem prefix_append_mark_iff {mark : Char} {word left right : Text} (absent : mark ∉ word) :
    word <+: left ++ mark :: right ↔ word <+: left := by
  induction left generalizing word with
  | nil =>
      cases word with
      | nil => simp
      | cons c word =>
          have differ : c ≠ mark := fun same => absent (same ▸ List.mem_cons_self)
          simp [List.cons_prefix_cons, differ]
  | cons d left induction =>
      cases word with
      | nil => simp
      | cons c word =>
          rw [List.cons_append, List.cons_prefix_cons, List.cons_prefix_cons,
            induction fun member => absent (List.mem_cons_of_mem c member)]

theorem infix_append_mark_iff {mark : Char} {word : Text} (absent : mark ∉ word)
    (left right : Text) : word <:+: left ++ mark :: right ↔ word <:+: left ∨ word <:+: right := by
  induction left with
  | nil =>
      have start : word <+: [] ++ mark :: right ↔ word <+: [] := prefix_append_mark_iff absent
      rw [List.nil_append] at start ⊢
      rw [List.infix_cons_iff, start, List.prefix_nil, List.infix_nil]
  | cons c left induction =>
      rw [List.cons_append, List.infix_cons_iff, induction, List.infix_cons_iff, or_assoc,
        ← List.cons_append, prefix_append_mark_iff absent]

theorem prefix_around_mark_iff {mark : Char} {stem ending left right : Text}
    (stemFree : mark ∉ stem) (leftFree : mark ∉ left) :
    stem ++ mark :: ending <+: left ++ mark :: right ↔ stem = left ∧ ending <+: right := by
  induction left generalizing stem with
  | nil =>
      cases stem with
      | nil => simp [List.cons_prefix_cons]
      | cons c stem =>
          have differ : c ≠ mark := fun same => stemFree (same ▸ List.mem_cons_self)
          simp [List.cons_prefix_cons, differ]
  | cons d left induction =>
      cases stem with
      | nil =>
          have differ : mark ≠ d := fun same => leftFree (same ▸ List.mem_cons_self)
          simp [List.cons_prefix_cons, differ]
      | cons c stem =>
          rw [List.cons_append, List.cons_append, List.cons_prefix_cons,
            induction (fun member => stemFree (List.mem_cons_of_mem c member))
              (fun member => leftFree (List.mem_cons_of_mem d member)),
            List.cons.injEq, and_assoc]

/-- A word around a mark meets the first mark of a text, or occurs behind it. -/
theorem infix_around_mark_iff {mark : Char} {stem left : Text} (stemFree : mark ∉ stem)
    (leftFree : mark ∉ left) (ending right : Text) :
    stem ++ mark :: ending <:+: left ++ mark :: right ↔
      (stem <:+ left ∧ ending <+: right) ∨ stem ++ mark :: ending <:+: right := by
  induction left with
  | nil =>
      have start : stem ++ mark :: ending <+: [] ++ mark :: right ↔
          stem = [] ∧ ending <+: right := prefix_around_mark_iff stemFree leftFree
      rw [List.nil_append] at start ⊢
      rw [List.infix_cons_iff, start, List.suffix_nil]
  | cons c left induction =>
      rw [List.cons_append, List.infix_cons_iff, ← List.cons_append,
        prefix_around_mark_iff stemFree leftFree,
        induction fun member => leftFree (List.mem_cons_of_mem c member),
        List.suffix_cons_iff, ← or_assoc, ← or_and_right]

theorem suffix_append_of_last {word lead : Text} (foreign : ∀ c ∈ lead.getLast?, c ∉ word)
    (text : Text) : word <:+ lead ++ text ↔ word <:+ text := by
  constructor
  · rintro ⟨front, split⟩
    rcases List.append_eq_append_iff.mp split with ⟨more, rfl, rfl⟩ | ⟨more, rfl, rfl⟩
    · by_cases none : more = []
      · rw [none, List.nil_append]
      · have last : more.getLast none ∈ (front ++ more).getLast? := by
          rw [List.getLast?_append_of_ne_nil front none, List.getLast?_eq_some_getLast none]
          rfl
        exact absurd (List.mem_append_left text (List.getLast_mem none)) (foreign _ last)
    · exact ⟨more, rfl⟩
  · intro ends
    exact ends.trans (List.suffix_append lead text)

theorem infix_append_of_head {word lead : Text} (nonempty : word ≠ [])
    (foreign : ∀ c ∈ lead, word.head? ≠ some c) (text : Text) :
    word <:+: lead ++ text ↔ word <:+: text := by
  induction lead with
  | nil => rfl
  | cons c lead induction =>
      obtain ⟨d, rest, rfl⟩ := List.exists_cons_of_ne_nil nonempty
      have differ : d ≠ c := by simpa using foreign c List.mem_cons_self
      rw [List.cons_append, List.infix_cons_iff, List.cons_prefix_cons,
        induction fun e member => foreign e (List.mem_cons_of_mem c member)]
      simp [differ]

theorem infix_append_of_last {word tail : Text} (nonempty : word ≠ [])
    (foreign : ∀ c ∈ tail, word.getLast? ≠ some c) (text : Text) :
    word <:+: text ++ tail ↔ word <:+: text := by
  have turned : ∀ c ∈ tail.reverse, word.reverse.head? ≠ some c := by
    intro c member
    rw [List.head?_reverse]
    exact foreign c (List.mem_reverse.mp member)
  rw [← List.reverse_infix, List.reverse_append,
    infix_append_of_head (by simpa using nonempty) turned, List.reverse_infix]

theorem infix_trim_iff {word : Text} (tight : Tight word) (text : Text) :
    word <:+: trim text ↔ word <:+: text := by
  obtain ⟨lead, trailing, split, leadBlank, trailingBlank⟩ := exists_trim text
  have front : ∀ c ∈ lead, word.head? ≠ some c := by
    intro c member first
    exact absurd (leadBlank c member) (by simp [tight.first c first])
  have behind : ∀ c ∈ trailing, word.getLast? ≠ some c := by
    intro c member last
    exact absurd (trailingBlank c member) (by simp [tight.last c last])
  conv_rhs => rw [split, infix_append_of_head tight.nonempty front,
    infix_append_of_last tight.nonempty behind]

theorem infix_join_mark_iff {mark : Char} {word : Text} (absent : mark ∉ word)
    {parts : List Text} (some : parts ≠ []) :
    word <:+: join [mark] parts ↔ ∃ part ∈ parts, word <:+: part := by
  induction parts with
  | nil => exact absurd rfl some
  | cons part parts induction =>
      cases parts with
      | nil => simp [join]
      | cons next parts =>
          have later := induction (List.cons_ne_nil next parts)
          rw [join] at later ⊢
          rw [List.intercalate_cons_cons, List.append_assoc, List.singleton_append,
            infix_append_mark_iff absent, later]
          simp only [List.mem_cons, exists_eq_or_imp]

theorem infix_iff_exists_line {word : Text} (oneLine : '\n' ∉ word) (text : Text) :
    word <:+: text ↔ ∃ line ∈ lines text, word <:+: line := by
  have whole : join ['\n'] (lines text) = text := by
    rw [lines, cutAt_eq_splitOn]
    exact List.intercalate_splitOn '\n'
  have some : lines text ≠ [] := by
    rw [lines, cutAt_eq_splitOn]
    exact List.splitOn_ne_nil '\n' text
  conv_lhs => rw [← whole]
  exact infix_join_mark_iff oneLine some

end SqlFanout.Text
