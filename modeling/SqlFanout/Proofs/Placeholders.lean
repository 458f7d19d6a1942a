import SqlFanout.Proofs.Suffixes
import SqlFanout.Proofs.WordSearch

/-!
# Filling placeholders at once

The placeholders of a custom format are filled one after another, each in a pass over
what the passes before it have left.  A placeholder begins with a brace and has no other
one inside, so that placeholders do not overlap, and the number that is filled in shares
no character with them.  So every pass makes the holes that a single pass over the
format would make for its placeholder (`Holes.punch`), and the order of the passes does
not matter (`custom_suffix_at_once`).
-/

namespace SqlFanout.Text

/-- Finds any of several texts. -/
def anyFinder (literals : List Text) : Finder Text := fun _ text =>
  literals.findSome? fun literal =>
    (afterStart? literal text).map fun rest => (literal, rest)

/-- Texts that begin with a mark and have it nowhere else, and none of which is the
beginning of another one.  Their occurrences do not overlap. -/
structure Separate (mark : Char) (holders : List Text) : Prop where
  marked : ∀ holder ∈ holders, ∃ letters, holder = mark :: letters ∧ mark ∉ letters
  unlike : ∀ holder ∈ holders, ∀ other ∈ holders, holder <+: other → holder = other

theorem Separate.ne_nil {mark : Char} {holders : List Text} (separate : Separate mark holders)
    {holder : Text} (listed : holder ∈ holders) : holder ≠ [] := by
  obtain ⟨letters, rfl, -⟩ := separate.marked holder listed
  exact List.cons_ne_nil mark letters

theorem Separate.mono {mark : Char} {holders fewer : List Text}
    (separate : Separate mark holders) (among : ∀ holder ∈ fewer, holder ∈ holders) :
    Separate mark fewer where
  marked holder listed := separate.marked holder (among holder listed)
  unlike holder listed other member :=
    separate.unlike holder (among holder listed) other (among other member)

section Finder

variable {holders : List Text} {before : Option Char}

theorem anyFinder_of_free {text : Text} (free : ∀ holder ∈ holders, ¬ holder <+: text) :
    anyFinder holders before text = none := by
  rw [anyFinder, List.findSome?_eq_none_iff]
  intro holder listed
  cases start : afterStart? holder text with
  | none => rfl
  | some rest => exact absurd ⟨rest, (afterStart?_eq_some_iff.mp start).symm⟩ (free holder listed)

theorem anyFinder_append {mark : Char} (separate : Separate mark holders) {holder : Text}
    (listed : holder ∈ holders) (rest : Text) :
    anyFinder holders before (holder ++ rest) = some (holder, rest) := by
  cases found : anyFinder holders before (holder ++ rest) with
  | none =>
      rw [anyFinder, List.findSome?_eq_none_iff] at found
      have start : afterStart? holder (holder ++ rest) = some rest :=
        afterStart?_eq_some_iff.mpr rfl
      have silent := found holder listed
      rw [start] at silent
      cases silent
  | some pair =>
      obtain ⟨other, member, start⟩ := List.exists_of_findSome?_eq_some found
      obtain ⟨after, split, rfl⟩ := Option.map_eq_some_iff.mp start
      rw [afterStart?_eq_some_iff] at split
      have same : holder = other := by
        rcases List.prefix_or_prefix_of_prefix (List.prefix_append holder rest)
          ⟨after, split.symm⟩ with inside | inside
        · exact separate.unlike holder listed other member inside
        · exact (separate.unlike other member holder listed inside).symm
      subst same
      rw [List.append_cancel_left split]

end Finder

/-- A text with holes in the place of certain texts, wherever one of them occurs. -/
inductive Holes (holders : List Text) : Text → Frame → Prop where
  | nil : Holes holders [] []
  | plain {c : Char} {rest : Text} {frame : Frame}
      (free : ∀ holder ∈ holders, ¬ holder <+: c :: rest) (later : Holes holders rest frame) :
      Holes holders (c :: rest) (some c :: frame)
  | hole {holder rest : Text} {frame : Frame} (listed : holder ∈ holders)
      (later : Holes holders rest frame) : Holes holders (holder ++ rest) (none :: frame)

namespace Frame

theorem not_begins_with_hole {old : Text} (nonempty : old ≠ []) (rest : Frame) :
    ¬ old.map some <+: none :: rest := by
  obtain ⟨c, letters, rfl⟩ := List.exists_cons_of_ne_nil nonempty
  simp [List.cons_prefix_cons]

theorem punch_append_of_mark {mark : Char} {letters stretch : Text} (absent : mark ∉ stretch)
    (frame : Frame) :
    punch (mark :: letters) (stretch.map some ++ frame) =
      stretch.map some ++ punch (mark :: letters) frame := by
  induction stretch with
  | nil => rfl
  | cons c stretch induction =>
      obtain ⟨differ, later⟩ := not_or.mp (List.mem_cons.not.mp absent)
      have other : ¬ (mark :: letters).map some <+: some c :: (stretch.map some ++ frame) := by
        intro begins
        rw [List.map_cons, List.cons_prefix_cons] at begins
        exact differ (Option.some.inj begins.1)
      rw [List.map_cons, List.cons_append, punch_of_other other, induction later, List.cons_append]

/-- A text that shares no character with the filling occurs in a filled frame only where
it occurs in the frame. -/
theorem infix_fill_iff {old filling : Text} (nonempty : old ≠ []) (filled : filling ≠ [])
    (apart : ∀ c ∈ filling, c ∉ old) {frame : Frame} :
    old <:+: fill filling frame ↔ old.map some <:+: frame := by
  induction frame with
  | nil => simp
  | cons slot rest induction =>
      rw [List.infix_cons_iff, ← induction]
      cases slot with
      | some c =>
          rw [fill_some, List.infix_cons_iff, ← fill_some, prefix_fill_iff filled apart]
      | none =>
          have foreign : ∀ c ∈ filling, old.head? ≠ some c :=
            fun c member first => apart c member (List.mem_of_head? first)
          rw [fill_none, infix_append_of_head nonempty foreign]
          simp [not_begins_with_hole nonempty]

end Frame

namespace Holes

variable {mark : Char} {holders : List Text} {text : Text} {frame : Frame}

theorem congr {others : List Text} (same : ∀ holder, holder ∈ holders ↔ holder ∈ others)
    (holes : Holes holders text frame) : Holes others text frame := by
  induction holes with
  | nil => exact .nil
  | plain free later induction =>
      exact .plain (fun holder listed => free holder ((same holder).mpr listed)) induction
  | hole listed later induction => exact .hole ((same _).mp listed) induction

theorem start (text : Text) : Holes [] text (text.map some) := by
  induction text with
  | nil => exact .nil
  | cons c rest induction => exact .plain (by simp) induction

/-- What the frame begins with before any hole, the text begins with. -/
theorem text_begins (holes : Holes holders text frame) {part : Text}
    (begins : part.map some <+: frame) : part <+: text := by
  induction holes generalizing part with
  | nil => simpa using begins
  | plain free later induction =>
      cases part with
      | nil => exact List.nil_prefix
      | cons d part =>
          rw [List.map_cons, List.cons_prefix_cons] at begins
          exact List.cons_prefix_cons.mpr ⟨Option.some.inj begins.1, induction begins.2⟩
  | hole listed later induction =>
      cases part with
      | nil => exact List.nil_prefix
      | cons d part => simp [List.cons_prefix_cons] at begins

theorem of_append (separate : Separate mark holders) {letters rest : Text}
    (absent : mark ∉ letters) (holes : Holes holders (letters ++ rest) frame) :
    ∃ later, frame = letters.map some ++ later ∧ Holes holders rest later := by
  induction letters generalizing frame with
  | nil => exact ⟨frame, rfl, holes⟩
  | cons c letters induction =>
      obtain ⟨differ, others⟩ := not_or.mp (List.mem_cons.not.mp absent)
      generalize whole : c :: letters ++ rest = text at holes
      cases holes with
      | nil => cases whole
      | plain free later =>
          obtain ⟨rfl, rfl⟩ := List.cons.inj whole
          obtain ⟨frame, rfl, holes⟩ := induction others later
          exact ⟨frame, rfl, holes⟩
      | hole listed later =>
          obtain ⟨tail, rfl, -⟩ := separate.marked _ listed
          exact absurd (List.cons.inj whole).1.symm differ

/-- A further pass makes the holes for one more text. -/
theorem punch {holder : Text} (separate : Separate mark (holder :: holders))
    (holes : Holes holders text frame) :
    Holes (holder :: holders) text (frame.punch holder) := by
  have nonempty : holder ≠ [] := separate.ne_nil List.mem_cons_self
  have fewer : Separate mark holders := separate.mono fun _ => List.mem_cons_of_mem holder
  induction holes with
  | nil => exact .nil
  | @hole other rest frame listed later induction =>
      rw [Frame.punch_of_other (Frame.not_begins_with_hole nonempty frame)]
      exact .hole (List.mem_cons_of_mem holder listed) induction
  | @plain c rest frame free later induction =>
      have kept := Holes.plain free later
      by_cases begins : holder <+: c :: rest
      · obtain ⟨letters, rfl, absent⟩ := separate.marked holder List.mem_cons_self
        obtain ⟨more, split⟩ := begins
        obtain ⟨rfl, rfl⟩ := List.cons.inj split
        obtain ⟨frame, rfl, -⟩ := later.of_append fewer absent
        rw [Frame.punch_append_of_mark absent] at induction
        obtain ⟨other, same, inner⟩ := induction.of_append separate absent
        rw [← List.cons_append, ← List.map_cons, Frame.punch_of_start nonempty,
          List.append_cancel_left same]
        exact .hole List.mem_cons_self inner
      · have passed : ¬ holder.map some <+: some c :: frame :=
          fun start => begins (kept.text_begins start)
        rw [Frame.punch_of_other passed]
        refine .plain (fun other listed => ?_) induction
        rcases List.mem_cons.mp listed with rfl | member
        · exact begins
        · exact free other member

/-- Passes for several texts, one after another, make the holes for all of them. -/
theorem foldl_punch {order : List Text} (separate : Separate mark (order ++ holders))
    (holes : Holes holders text frame) :
    Holes (order ++ holders) text
      (order.foldl (fun frame holder => frame.punch holder) frame) := by
  induction order generalizing holders frame with
  | nil => exact holes
  | cons holder order induction =>
      have same : ∀ other, other ∈ order ++ holder :: holders ↔
          other ∈ holder :: order ++ holders := by
        intro other
        simp only [List.mem_append, List.mem_cons]
        tauto
      have moved : Separate mark (order ++ holder :: holders) :=
        separate.mono fun other => (same other).mp
      have first : Separate mark (holder :: holders) :=
        moved.mono fun _ => List.mem_append_right order
      exact (induction moved (holes.punch first)).congr same

theorem substituteFrom_eq_fill (separate : Separate mark holders)
    (holes : Holes holders text frame) (filling : Text) (before : Option Char) :
    (anyFinder holders).substituteFrom (fun _ => filling) before text = frame.fill filling := by
  induction holes generalizing before with
  | nil => rfl
  | plain free later induction =>
      rw [Finder.substituteFrom_plain _ (anyFinder_of_free free), induction, Frame.fill_some]
  | hole listed later induction =>
      rw [Finder.substituteFrom_part _ (separate.ne_nil listed)
        (anyFinder_append separate listed _), induction, Frame.fill_none]

theorem not_infix (separate : Separate mark holders) (holes : Holes holders text frame)
    {holder : Text} (listed : holder ∈ holders) : ¬ holder.map some <:+: frame := by
  have nonempty : holder ≠ [] := separate.ne_nil listed
  induction holes with
  | nil => simpa using nonempty
  | plain free later induction =>
      rw [List.infix_cons_iff, not_or]
      exact ⟨fun begins => free holder listed ((Holes.plain free later).text_begins begins),
        induction⟩
  | hole _ later induction =>
      rw [List.infix_cons_iff, not_or]
      exact ⟨Frame.not_begins_with_hole nonempty _, induction⟩

end Holes

end SqlFanout.Text

namespace SqlFanout

open Text

theorem separate_placeholders : Separate '\x7b' placeholders := by
  have letters : ∀ placeholder ∈ placeholders,
      placeholder.head? = some '\x7b' ∧ '\x7b' ∉ placeholder.tail := by decide
  refine ⟨fun placeholder listed => ?_, by decide⟩
  obtain ⟨first, absent⟩ := letters placeholder listed
  exact ⟨placeholder.tail, (List.cons_head?_tail first).symm, absent⟩

theorem holes_of_perm (format : Text) {order : List Text} (perm : order.Perm placeholders) :
    Holes placeholders format
      (order.foldl (fun frame placeholder => frame.punch placeholder) (format.map some)) := by
  have same : ∀ placeholder, placeholder ∈ order ++ [] ↔ placeholder ∈ placeholders := by
    intro placeholder
    rw [List.append_nil, perm.mem_iff]
  have separate : Separate '\x7b' (order ++ []) :=
    separate_placeholders.mono fun placeholder => (same placeholder).mp
  exact ((Holes.start format).foldl_punch separate).congr same

/-- Passes in any order fill a format as a single scan does. -/
theorem passes_eq_substitute (format : Text) (index : Int) {order : List Text}
    (perm : order.Perm placeholders) :
    order.foldl (fun text placeholder => replaceAll placeholder (ofInt index) text) format =
      (anyFinder placeholders).substitute (fun _ => ofInt index) format := by
  have passes := foldl_replaceAll_fill index (fun _ listed => perm.mem_iff.mp listed)
    (format.map some)
  rw [Frame.fill_map_some] at passes
  rw [passes, Finder.substitute_eq]
  exact ((holes_of_perm format perm).substituteFrom_eq_fill separate_placeholders _ _).symm

namespace SuffixSeries

/-- A custom suffix is the format with the number in the place of all placeholders at
once.  It is the same for every order of the placeholders, and holds none of them. -/
theorem custom_suffix_at_once (series : SuffixSeries) (index : Int) :
    ({ series with style := .custom } : SuffixSeries).suffix index =
        (anyFinder placeholders).substitute (fun _ => ofInt index) series.format ∧
      (∀ order : List Text, order.Perm placeholders →
        order.foldl (fun text placeholder => replaceAll placeholder (ofInt index) text)
            series.format =
          ({ series with style := .custom } : SuffixSeries).suffix index) ∧
      ∀ placeholder ∈ placeholders,
        occursIn placeholder (({ series with style := .custom } : SuffixSeries).suffix index) =
          false := by
  have whole : ({ series with style := .custom } : SuffixSeries).suffix index =
      (anyFinder placeholders).substitute (fun _ => ofInt index) series.format :=
    passes_eq_substitute series.format index (List.Perm.refl placeholders)
  refine ⟨whole, fun order perm => ?_, fun placeholder listed => ?_⟩
  · rw [whole]
    exact passes_eq_substitute series.format index perm
  · have holes := holes_of_perm series.format (List.Perm.refl placeholders)
    have gone := holes.not_infix separate_placeholders listed
    rw [← Frame.infix_fill_iff (placeholder_ne_nil placeholder listed) (ofInt_ne_nil index)
      (apart_placeholder index placeholder listed)] at gone
    rw [whole, Finder.substitute_eq,
      holes.substituteFrom_eq_fill separate_placeholders (ofInt index) .none]
    simpa [← occursIn_iff] using gone

/-- Placeholders inside of others, broken ones, and some next to each other. -/
def tangledSeries : SuffixSeries where
  style := .custom
  format := "\x7b\x7bi\x7dndex\x7d\x7bi\x7bI\x7d\x7d\x7bINDEX\x7d\x7bindex\x7di\x7d"

theorem custom_suffix_at_once_tangled :
    placeholders.reverse.Perm placeholders ∧
    placeholders.reverse.foldl
        (fun text placeholder => replaceAll placeholder (ofInt (-5)) text) tangledSeries.format =
      tangledSeries.suffix (-5) ∧
    tangledSeries.suffix (-5) = "\x7b-5ndex\x7d\x7bi-5\x7d-5-5i\x7d" ∧
    occursIn "\x7bi\x7d" (tangledSeries.suffix (-5)) = false := by
  obtain ⟨-, passes, gone⟩ := custom_suffix_at_once tangledSeries (-5)
  refine ⟨List.reverse_perm _, passes _ (List.reverse_perm _), by decide, ?_⟩
  exact gone "\x7bi\x7d" (by decide)

end SuffixSeries

end SqlFanout
