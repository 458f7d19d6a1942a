import Mathlib.Data.List.Basic
import SqlFanout.Proofs.Frames
import SqlFanout.Proofs.Letters
import SqlFanout.Shard.Plan

/-!
# The numbers in suffixes

Every suffix of an accepted plan shows a number.  For three styles the number is
written out; a custom format must hold a placeholder, so that it is a frame with
a hole for the number.  Digits are what keeps a table name with its suffix apart
from all keywords (`showsDigit_suffix`), and the number tells the suffixes of a
series apart (`suffix_injective`).
-/

namespace SqlFanout.Text

/-- A text that holds a digit. -/
def ShowsDigit (text : Text) : Prop :=
  ∃ d ∈ text, isAsciiDigit d = true

theorem ShowsDigit.append_left {text : Text} (shows : ShowsDigit text) (left : Text) :
    ShowsDigit (left ++ text) := by
  obtain ⟨d, member, digit⟩ := shows
  exact ⟨d, List.mem_append_right left member, digit⟩

theorem ShowsDigit.append_right {text : Text} (shows : ShowsDigit text) (right : Text) :
    ShowsDigit (text ++ right) := by
  obtain ⟨d, member, digit⟩ := shows
  exact ⟨d, List.mem_append_left right member, digit⟩

theorem ShowsDigit.fill {text : Text} (shows : ShowsDigit text) {frame : Frame}
    (hole : none ∈ frame) : ShowsDigit (frame.fill text) := by
  obtain ⟨d, member, digit⟩ := shows
  exact ⟨d, List.mem_flatMap.mpr ⟨none, hole, member⟩, digit⟩

theorem fold_of_isAsciiDigit {d : Char} (digit : isAsciiDigit d = true) : fold d = d :=
  ascii_cases (fun d => isAsciiDigit d = true → fold d = d) (by decide)
    (isAscii_of_isAsciiDigit digit) digit

theorem ShowsDigit.folded {text : Text} (shows : ShowsDigit text) :
    ShowsDigit (folded text) := by
  obtain ⟨d, member, digit⟩ := shows
  refine ⟨d, ?_, digit⟩
  rw [← fold_of_isAsciiDigit digit]
  exact List.mem_map_of_mem member

theorem isAsciiDigit_of_mem_ofNat {n : Nat} {d : Char} (member : d ∈ ofNat n) :
    isAsciiDigit d = true := by
  have digit := Nat.isDigit_of_mem_toDigits (by decide) (by decide) member
  simpa [Char.isDigit, isAsciiDigit, Char.le_def] using digit

theorem ofNat_ne_nil (n : Nat) : ofNat n ≠ [] :=
  Nat.toDigits_ne_nil

theorem showsDigit_ofNat (n : Nat) : ShowsDigit (ofNat n) := by
  obtain ⟨d, others, shape⟩ := List.exists_cons_of_ne_nil (ofNat_ne_nil n)
  have member : d ∈ ofNat n := by simp [shape]
  exact ⟨d, member, isAsciiDigit_of_mem_ofNat member⟩

theorem showsDigit_ofInt (n : Int) : ShowsDigit (ofInt n) := by
  cases n with
  | ofNat n => exact showsDigit_ofNat n
  | negSucc n => exact (showsDigit_ofNat (n + 1)).append_left ['-']

theorem ofInt_ne_nil (n : Int) : ofInt n ≠ [] := by
  obtain ⟨d, member, -⟩ := showsDigit_ofInt n
  exact List.ne_nil_of_mem member

theorem mem_ofInt {n : Int} {d : Char} (member : d ∈ ofInt n) :
    isAsciiDigit d = true ∨ d = '-' := by
  cases n with
  | ofNat n => exact .inl (isAsciiDigit_of_mem_ofNat member)
  | negSucc n =>
      rcases List.mem_cons.mp member with sign | later
      · exact .inr sign
      · exact .inl (isAsciiDigit_of_mem_ofNat later)

theorem ofNat_injective : Function.Injective ofNat := by
  intro left right same
  calc
    left = Nat.ofDigitChars 10 (ofNat left) 0 := Nat.ofDigitChars_ten_toDigits.symm
    _ = Nat.ofDigitChars 10 (ofNat right) 0 := by rw [same]
    _ = right := Nat.ofDigitChars_ten_toDigits

theorem ofInt_injective : Function.Injective ofInt := by
  have unsigned : ∀ left right : Nat, ofNat left ≠ '-' :: ofNat (right + 1) := by
    intro left right same
    have sign := isAsciiDigit_of_mem_ofNat (n := left) (d := '-') (by simp [same])
    revert sign
    decide
  intro left right same
  cases left with
  | ofNat left =>
      cases right with
      | ofNat right => exact congrArg Int.ofNat (ofNat_injective same)
      | negSucc right => exact absurd same (unsigned left right)
  | negSucc left =>
      cases right with
      | ofNat right => exact absurd same.symm (unsigned right left)
      | negSucc right =>
          have numbers : left + 1 = right + 1 := ofNat_injective (List.cons.inj same).2
          exact congrArg Int.negSucc (Nat.succ.inj numbers)

/-- Months are written with two digits, by which they are told apart. -/
theorem twoDigits_month {month : Nat} (small : month < 13) :
    (twoDigits month).length = 2 := by
  have check : ∀ month : Fin 13, (twoDigits month).length = 2 := by decide
  exact check ⟨month, small⟩

theorem eq_of_twoDigits {left right : Nat} (leftSmall : left < 13) (rightSmall : right < 13)
    (same : twoDigits left = twoDigits right) : left = right := by
  have check : ∀ left right : Fin 13,
      twoDigits left = twoDigits right → left = right := by decide
  exact congrArg Fin.val (check ⟨left, leftSmall⟩ ⟨right, rightSmall⟩ same)

end SqlFanout.Text

namespace SqlFanout

open Text

/-- A custom format with holes in the place of its placeholders. -/
def placeholderFrame (format : Text) : Frame :=
  placeholders.foldl (fun frame placeholder => frame.punch placeholder) (format.map some)

theorem apart_placeholder (index : Int) :
    ∀ placeholder ∈ placeholders, ∀ c ∈ ofInt index, c ∉ placeholder := by
  have marks : ∀ placeholder ∈ placeholders,
      placeholder.all (fun c => !isAsciiDigit c && c != '-') = true := by
    decide
  intro placeholder listed c member inside
  have mark := List.all_eq_true.mp (marks placeholder listed) c inside
  rcases mem_ofInt member with digit | sign
  · simp [digit] at mark
  · simp [sign] at mark

theorem placeholder_ne_nil : ∀ placeholder ∈ placeholders, placeholder ≠ [] := by
  decide

theorem foldl_replaceAll_fill (index : Int) {holders : List Text}
    (among : ∀ holder ∈ holders, holder ∈ placeholders) (frame : Frame) :
    holders.foldl (fun text holder => replaceAll holder (ofInt index) text)
        (frame.fill (ofInt index)) =
      (holders.foldl (fun frame holder => frame.punch holder) frame).fill (ofInt index) := by
  induction holders generalizing frame with
  | nil => rfl
  | cons holder holders induction =>
      have listed := among holder List.mem_cons_self
      rw [List.foldl_cons, List.foldl_cons,
        Frame.replaceAll_fill (placeholder_ne_nil holder listed) (ofInt_ne_nil index)
          (apart_placeholder index holder listed)]
      exact induction (fun other member => among other (List.mem_cons_of_mem holder member)) _

theorem fillPlaceholders_eq_fill (format : Text) (index : Int) :
    fillPlaceholders format index = (placeholderFrame format).fill (ofInt index) := by
  have whole := foldl_replaceAll_fill index (fun _ listed => listed) (format.map some)
  rwa [Frame.fill_map_some] at whole

/-- As long as no placeholder has been met, the frame is the given one, and the
placeholders it holds are still to come. -/
private theorem none_mem_foldl_punch {holders : List Text}
    (nonempty : ∀ holder ∈ holders, holder ≠ []) {frame : Frame}
    (present : none ∈ frame ∨ ∃ holder ∈ holders, holder.map some <:+: frame) :
    none ∈ holders.foldl (fun frame holder => frame.punch holder) frame := by
  induction holders generalizing frame with
  | nil =>
      rcases present with hole | ⟨holder, member, -⟩
      · exact hole
      · cases member
  | cons holder holders induction =>
      have first := nonempty holder List.mem_cons_self
      rw [List.foldl_cons]
      apply induction fun other member => nonempty other (List.mem_cons_of_mem holder member)
      by_cases inside : holder.map some <:+: frame
      · exact .inl (Frame.none_mem_punch first (.inr inside))
      · rw [Frame.punch_of_absent inside]
        rcases present with hole | ⟨other, member, found⟩
        · exact .inl hole
        · rcases List.mem_cons.mp member with rfl | later
          · exact absurd found inside
          · exact .inr ⟨other, later, found⟩

theorem none_mem_placeholderFrame {format : Text}
    (held : ∃ placeholder ∈ placeholders, occursIn placeholder format = true) :
    none ∈ placeholderFrame format := by
  apply none_mem_foldl_punch placeholder_ne_nil
  obtain ⟨placeholder, listed, occurs⟩ := held
  exact .inr ⟨placeholder, listed, (occursIn_iff.mp occurs).map some⟩

theorem SuffixStyle.holds_of_checkFormat {format : Text}
    (valid : (SuffixStyle.custom.checkFormat format).isValid = true) :
    ∃ placeholder ∈ placeholders, occursIn placeholder format = true := by
  rw [checkFormat] at valid
  split at valid
  · cases valid
  · split at valid
    · cases valid
    next filled => simpa using filled

namespace SuffixSeries

theorem showsDigit_suffix {series : SuffixSeries}
    (valid : (series.style.checkFormat series.format).isValid = true) (index : Int) :
    ShowsDigit (series.suffix index) := by
  cases style : series.style with
  | sequence =>
      simp only [suffix, style]
      exact (showsDigit_ofInt _).append_left _
  | year =>
      simp only [suffix, style]
      exact (showsDigit_ofInt _).append_left _
  | yearMonth =>
      simp only [suffix, style]
      exact ((showsDigit_ofInt _).append_left _).append_right _
  | custom =>
      rw [style] at valid
      simp only [suffix, style, fillPlaceholders_eq_fill]
      apply (showsDigit_ofInt index).fill
      exact none_mem_placeholderFrame (SuffixStyle.holds_of_checkFormat valid)

theorem showsDigit_of_mem_suffixes {series : SuffixSeries}
    (valid : (series.style.checkFormat series.format).isValid = true) {count : Int}
    {text : Text} (member : text ∈ series.suffixes count) : ShowsDigit text := by
  obtain ⟨index, -, rfl⟩ := List.mem_map.mp member
  exact showsDigit_suffix valid index

/-- The year and the month are read off from the right, for a month has two digits. -/
private theorem months_injective {left right : Int}
    (same : ofInt (left / 12) ++ twoDigits (left % 12 + 1).toNat =
      ofInt (right / 12) ++ twoDigits (right % 12 + 1).toNat) : left = right := by
  have leftSmall : (left % 12 + 1).toNat < 13 := by omega
  have rightSmall : (right % 12 + 1).toNat < 13 := by omega
  have size : (twoDigits (left % 12 + 1).toNat).length =
      (twoDigits (right % 12 + 1).toNat).length := by
    rw [twoDigits_month leftSmall, twoDigits_month rightSmall]
  obtain ⟨years, months⟩ := List.append_inj' same size
  have year := ofInt_injective years
  have month := eq_of_twoDigits leftSmall rightSmall months
  omega

/-- The suffixes of a series with a valid format are told apart by their numbers. -/
theorem suffix_injective {series : SuffixSeries}
    (valid : (series.style.checkFormat series.format).isValid = true) :
    Function.Injective series.suffix := by
  intro left right same
  cases style : series.style with
  | sequence =>
      simp only [suffix, style, List.append_cancel_left_eq] at same
      exact ofInt_injective same
  | year =>
      simp only [suffix, style, List.append_cancel_left_eq] at same
      have years := ofInt_injective same
      omega
  | yearMonth =>
      simp only [suffix, style, List.append_assoc, List.append_cancel_left_eq] at same
      have months := months_injective same
      omega
  | custom =>
      rw [style] at valid
      have hole := none_mem_placeholderFrame (SuffixStyle.holds_of_checkFormat valid)
      simp only [suffix, style, fillPlaceholders_eq_fill] at same
      exact ofInt_injective (Frame.fill_injective hole same)

end SuffixSeries

namespace ShardPlan

private theorem facts_of_check {settings : Settings} {plan : ShardPlan}
    (accepted : (plan.check settings).isValid = true) :
    0 < plan.count ∧
      (plan.series.style.checkFormat plan.series.format).isValid = true := by
  unfold check at accepted
  split at accepted
  · cases accepted
  · split at accepted
    · cases accepted
    next positive =>
      split at accepted
      · cases accepted
      · split at accepted
        · cases accepted
        · refine ⟨by omega, ?_⟩
          rw [Verdict.orElse] at accepted
          split at accepted
          next valid => exact valid
          next => exact accepted

theorem count_pos_of_check {settings : Settings} {plan : ShardPlan}
    (accepted : (plan.check settings).isValid = true) : 0 < plan.count :=
  (facts_of_check accepted).1

theorem checkFormat_of_check {settings : Settings} {plan : ShardPlan}
    (accepted : (plan.check settings).isValid = true) :
    (plan.series.style.checkFormat plan.series.format).isValid = true :=
  (facts_of_check accepted).2

end ShardPlan

end SqlFanout
