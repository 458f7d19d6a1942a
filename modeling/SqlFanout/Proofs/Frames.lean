import Mathlib.Data.List.Basic
import Mathlib.Data.List.Infix
import SqlFanout.Proofs.Scanning

/-!
# Texts with holes

A frame is a text with holes, all of which are filled with one text.  A frame
that has a hole tells its fillings apart (`fill_injective`).  Replacing a text by
the filling makes further holes, and which ones does not depend on the filling
(`replaceAll_fill`), as long as the two share no character: what has been filled
in then never completes an occurrence of what is replaced.
-/

namespace SqlFanout.Text

/-- A text with holes; `none` is a hole. -/
abbrev Frame := List (Option Char)

namespace Frame

/-- Puts a text into every hole. -/
def fill (filling : Text) (frame : Frame) : Text :=
  frame.flatMap fun
    | some c => [c]
    | none => filling

@[simp] theorem fill_nil (filling : Text) : fill filling [] = [] := rfl

@[simp] theorem fill_some (filling : Text) (c : Char) (rest : Frame) :
    fill filling (some c :: rest) = c :: fill filling rest := rfl

@[simp] theorem fill_none (filling : Text) (rest : Frame) :
    fill filling (none :: rest) = filling ++ fill filling rest := rfl

@[simp] theorem fill_append (filling : Text) (left right : Frame) :
    fill filling (left ++ right) = fill filling left ++ fill filling right :=
  List.flatMap_append

@[simp] theorem fill_map_some (filling text : Text) :
    fill filling (text.map some) = text := by
  induction text with
  | nil => rfl
  | cons c rest induction => rw [List.map_cons, fill_some, induction]

theorem length_fill (filling : Text) (frame : Frame) :
    (fill filling frame).length =
      frame.countP Option.isSome + frame.count none * filling.length := by
  induction frame with
  | nil => simp
  | cons slot rest induction =>
      cases slot with
      | some c =>
          simp only [fill_some, List.length_cons, induction, List.countP_cons,
            List.count_cons]
          simp
          omega
      | none =>
          simp only [fill_none, List.length_append, induction, List.countP_cons,
            List.count_cons]
          simp [Nat.add_mul]
          omega

/-- Fillings of one length are read off at the first hole. -/
private theorem fill_injective_of_length {frame : Frame} (hole : none ∈ frame)
    {left right : Text} (size : left.length = right.length)
    (same : fill left frame = fill right frame) : left = right := by
  induction frame with
  | nil => cases hole
  | cons slot rest induction =>
      cases slot with
      | none => exact (List.append_inj same size).1
      | some c =>
          have later : none ∈ rest := by simpa using hole
          exact induction later (List.cons.inj same).2

theorem fill_injective {frame : Frame} (hole : none ∈ frame) :
    Function.Injective fun filling => fill filling frame := by
  intro left right same
  have size : left.length = right.length := by
    have lengths := congrArg List.length same
    have positive : 0 < frame.count none := List.count_pos_iff.mpr hole
    simp only [length_fill] at lengths
    exact Nat.eq_of_mul_eq_mul_left positive (Nat.add_left_cancel lengths)
  exact fill_injective_of_length hole size same

/-- Makes holes in a frame whose first `skip` slots belong to the last hole made. -/
def punchFrom (old : Text) : Nat → Frame → Frame
  | _, [] => []
  | skip + 1, _ :: rest => punchFrom old skip rest
  | 0, slot :: rest =>
      if (old.map some).isPrefixOf (slot :: rest) then
        none :: punchFrom old (old.length - 1) rest
      else slot :: punchFrom old 0 rest

/-- Makes a hole of every occurrence of a text, from left to right. -/
def punch (old : Text) (frame : Frame) : Frame :=
  punchFrom old 0 frame

section Punch

variable {old : Text}

theorem punchFrom_skip (skipped rest : Frame) :
    punchFrom old skipped.length (skipped ++ rest) = punch old rest := by
  induction skipped with
  | nil => rfl
  | cons slot skipped induction =>
      rw [List.length_cons, List.cons_append, punchFrom, induction]

theorem punch_of_start (nonempty : old ≠ []) (rest : Frame) :
    punch old (old.map some ++ rest) = none :: punch old rest := by
  obtain ⟨c, letters, rfl⟩ := List.exists_cons_of_ne_nil nonempty
  have begins : ((c :: letters).map some).isPrefixOf
      (some c :: (letters.map some ++ rest)) = true :=
    List.isPrefixOf_iff_prefix.mpr ⟨rest, rfl⟩
  have size : (c :: letters).length - 1 = (letters.map some).length := by simp
  rw [punch, List.map_cons, List.cons_append, punchFrom, if_pos begins, size,
    punchFrom_skip]

theorem punch_of_other {slot : Option Char} {rest : Frame}
    (other : ¬ old.map some <+: slot :: rest) :
    punch old (slot :: rest) = slot :: punch old rest := by
  rw [punch, punchFrom, if_neg (fun begins => other (List.isPrefixOf_iff_prefix.mp begins))]
  rfl

theorem punch_of_absent {frame : Frame} (absent : ¬ old.map some <:+: frame) :
    punch old frame = frame := by
  induction frame with
  | nil => rfl
  | cons slot rest induction =>
      have other : ¬ old.map some <+: slot :: rest :=
        fun begins => absent begins.isInfix
      have later : ¬ old.map some <:+: rest :=
        fun inside => absent (List.infix_cons inside)
      rw [punch_of_other other, induction later]

theorem none_mem_punch (nonempty : old ≠ []) {frame : Frame}
    (present : none ∈ frame ∨ old.map some <:+: frame) : none ∈ punch old frame := by
  induction frame with
  | nil =>
      rcases present with hole | inside
      · cases hole
      · exact absurd (List.map_eq_nil_iff.mp (List.infix_nil.mp inside)) nonempty
  | cons slot rest induction =>
      by_cases begins : old.map some <+: slot :: rest
      · obtain ⟨more, split⟩ := begins
        rw [← split, punch_of_start nonempty]
        exact List.mem_cons_self
      · rw [punch_of_other begins]
        rcases present with hole | inside
        · rcases List.mem_cons.mp hole with first | later
          · exact first ▸ List.mem_cons_self
          · exact List.mem_cons_of_mem slot (induction (.inl later))
        · rcases List.infix_cons_iff.mp inside with first | later
          · exact absurd first begins
          · exact List.mem_cons_of_mem slot (induction (.inr later))

end Punch

section Replace

variable {old filling : Text}

/-- Beginnings of a filled frame that share no character with the filling are
beginnings of the frame. -/
theorem prefix_fill_iff (filled : filling ≠ []) (apart : ∀ c ∈ filling, c ∉ old)
    {frame : Frame} : old <+: fill filling frame ↔ old.map some <+: frame := by
  constructor
  · intro begins
    induction old generalizing frame with
    | nil => exact List.nil_prefix
    | cons c letters induction =>
        cases frame with
        | nil => simp at begins
        | cons slot rest =>
            cases slot with
            | some d =>
                rw [fill_some, List.cons_prefix_cons] at begins
                have later := induction
                  (fun e member inside => apart e member (List.mem_cons_of_mem c inside))
                  begins.2
                rw [List.map_cons, List.cons_prefix_cons]
                exact ⟨congrArg some begins.1, later⟩
            | none =>
                obtain ⟨d, more, rfl⟩ := List.exists_cons_of_ne_nil filled
                rw [fill_none, List.cons_append, List.cons_prefix_cons] at begins
                exact absurd (begins.1 ▸ List.mem_cons_self)
                  (apart d List.mem_cons_self)
  · rintro ⟨rest, rfl⟩
    exact ⟨fill filling rest, by rw [fill_append, fill_map_some]⟩

private theorem literalFinder_of_other {before : Option Char} {text : Text}
    (other : ¬ old <+: text) : literalFinder old before text = none := by
  rw [literalFinder]
  cases found : afterStart? old text with
  | none => rfl
  | some rest => exact absurd ⟨rest, (afterStart?_eq_some_iff.mp found).symm⟩ other

private theorem substituteFrom_filling (nonempty : old ≠ []) (new : Unit → Text)
    {stretch : Text} (apart : ∀ c ∈ stretch, c ∉ old) (before : Option Char)
    (text : Text) :
    (literalFinder old).substituteFrom new before (stretch ++ text) =
      stretch ++ (literalFinder old).substituteFrom new (lastOr before stretch) text := by
  induction stretch generalizing before with
  | nil => rfl
  | cons c stretch induction =>
      have other : ¬ old <+: c :: (stretch ++ text) := by
        obtain ⟨d, letters, rfl⟩ := List.exists_cons_of_ne_nil nonempty
        intro begins
        have same := (List.cons_prefix_cons.mp begins).1
        exact apart c List.mem_cons_self (same ▸ List.mem_cons_self)
      rw [List.cons_append,
        Finder.substituteFrom_plain new (literalFinder_of_other other),
        induction fun d member => apart d (List.mem_cons_of_mem c member), lastOr_cons]
      rfl

/-- The induction is on the number of slots, for a find consumes several of them. -/
private theorem substituteFrom_fill (nonempty : old ≠ []) (filled : filling ≠ [])
    (apart : ∀ c ∈ filling, c ∉ old) (frame : Frame) (before : Option Char) :
    (literalFinder old).substituteFrom (fun _ => filling) before (fill filling frame) =
      fill filling (punch old frame) := by
  induction size : frame.length using Nat.strong_induction_on
    generalizing frame before with
  | _ bound induction =>
  cases frame with
  | nil => rfl
  | cons slot rest =>
      by_cases begins : old.map some <+: slot :: rest
      · obtain ⟨more, split⟩ := begins
        obtain ⟨c, letters, rfl⟩ := List.exists_cons_of_ne_nil nonempty
        have shorter : more.length < bound := by
          rw [← size, ← split]
          simp only [List.length_append, List.length_map, List.length_cons]
          omega
        have start : afterStart? (c :: letters) (c :: (letters ++ fill filling more)) =
            some (fill filling more) := afterStart?_eq_some_iff.mpr rfl
        have found : literalFinder (c :: letters) before
            (c :: (letters ++ fill filling more)) = some ((), fill filling more) := by
          rw [literalFinder, start]
          rfl
        rw [← split, punch_of_start nonempty, fill_append, fill_map_some, fill_none,
          List.cons_append, Finder.substituteFrom_found _ letters _ found,
          induction more.length shorter more _ rfl]
      · have shorter : rest.length < bound := by
          rw [← size, List.length_cons]
          omega
        rw [punch_of_other begins]
        cases slot with
        | some c =>
            have other : ¬ old <+: c :: fill filling rest := by
              intro start
              exact begins ((prefix_fill_iff filled apart).mp start)
            rw [fill_some, fill_some,
              Finder.substituteFrom_plain _ (literalFinder_of_other other),
              induction rest.length shorter rest _ rfl]
        | none =>
            rw [fill_none, fill_none, substituteFrom_filling nonempty _ apart,
              induction rest.length shorter rest _ rfl]

/-- Replacing a text by the filling of a frame makes holes in the frame. -/
theorem replaceAll_fill (nonempty : old ≠ []) (filled : filling ≠ [])
    (apart : ∀ c ∈ filling, c ∉ old) (frame : Frame) :
    replaceAll old filling (fill filling frame) = fill filling (punch old frame) :=
  substituteFrom_fill nonempty filled apart frame none

end Replace

end Frame

theorem occursIn_iff {needle text : Text} :
    occursIn needle text = true ↔ needle <:+: text := by
  induction text with
  | nil => rw [occursIn, List.isEmpty_iff, List.infix_nil]
  | cons c rest induction =>
      rw [occursIn, Bool.or_eq_true, List.isPrefixOf_iff_prefix, induction,
        List.infix_cons_iff]

end SqlFanout.Text
