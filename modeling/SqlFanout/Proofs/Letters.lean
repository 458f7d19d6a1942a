import Mathlib.Data.List.Basic
import SqlFanout.Sql.Word

/-!
# Letters, blanks and case

The character classes are given by tables, and a few facts about the tables are
all that later arguments rest on: a blank is no word character, changing case
never produces a punctuation mark, and the only letters outside ASCII that
compare equal to an ASCII letter are `İ`, `ı`, `ſ` and the Kelvin sign.
-/

namespace SqlFanout.Text

/-- A property of all ASCII characters is settled by looking at each of them. -/
theorem ascii_cases (property : Char → Prop)
    (check : ∀ code : Fin 128, property (Char.ofNat code)) {c : Char}
    (ascii : isAscii c = true) : property c := by
  have small : c.toNat < 128 := by simpa [isAscii] using ascii
  simpa [Char.ofNat_toNat] using check ⟨c.toNat, small⟩

/-- The code points of the blanks outside ASCII. -/
private def wideBlanks : List Nat :=
  [0x85, 0xa0, 0x1680, 0x2000, 0x2001, 0x2002, 0x2003, 0x2004, 0x2005, 0x2006,
    0x2007, 0x2008, 0x2009, 0x200a, 0x2028, 0x2029, 0x202f, 0x205f, 0x3000]

private theorem mem_wideBlanks {c : Char} (wide : isAscii c = false)
    (blank : isBlank c = true) : c.toNat ∈ wideBlanks := by
  have large : 128 ≤ c.toNat := by simpa [isAscii] using wide
  simp [isBlank, isWhiteSpace, show ¬c.toNat < 128 by omega] at blank
  simp [wideBlanks]
  omega

private theorem blank_cases (property : Char → Prop)
    (inside : ∀ code : Fin 128, isBlank (Char.ofNat code) = true → property (Char.ofNat code))
    (beyond : ∀ code ∈ wideBlanks, property (Char.ofNat code)) {c : Char}
    (blank : isBlank c = true) : property c := by
  cases ascii : isAscii c with
  | true => exact ascii_cases (fun c => isBlank c = true → property c) inside ascii blank
  | false => simpa [Char.ofNat_toNat] using beyond c.toNat (mem_wideBlanks ascii blank)

set_option maxRecDepth 4000 in
theorem isWord_of_isBlank {c : Char} (blank : isBlank c = true) : isWord c = false :=
  blank_cases (fun c => isWord c = false) (by decide) (by decide) blank

set_option maxRecDepth 4000 in
theorem isDecimal_of_isBlank {c : Char} (blank : isBlank c = true) : isDecimal c = false :=
  blank_cases (fun c => isDecimal c = false) (by decide) (by decide) blank

theorem isBlank_of_isWord {c : Char} (word : isWord c = true) : isBlank c = false := by
  cases blank : isBlank c with
  | false => rfl
  | true => simp [isWord_of_isBlank blank] at word

theorem isWord_of_isLetter {c : Char} (letter : isLetter c = true) : isWord c = true := by
  unfold isLetter at letter
  unfold isWord isAlphanumeric
  split at letter <;> simp_all

theorem isAscii_of_isAsciiDigit {d : Char} (digit : isAsciiDigit d = true) :
    isAscii d = true := by
  simp only [isAsciiDigit, Bool.and_eq_true, decide_eq_true_eq] at digit
  have small : d.toNat ≤ 57 := digit.2
  simp only [isAscii, decide_eq_true_eq]
  omega

theorem isWord_of_isAsciiDigit {d : Char} (digit : isAsciiDigit d = true) :
    isWord d = true := by
  simp [isWord, isAlphanumeric, isAscii_of_isAsciiDigit digit, digit]

theorem exists_of_shifted {code image : Nat} {shifts : List CaseShift}
    (result : shifted code shifts = some image) :
    ∃ shift ∈ shifts, shift.first ≤ code ∧ code ≤ shift.last ∧
      image = (code + shift.offset).toNat := by
  induction shifts with
  | nil => simp [shifted] at result
  | cons shift shifts induction =>
      rw [shifted] at result
      split at result
      · simp at result
      · split at result
        next below covered =>
          refine ⟨shift, List.mem_cons_self, by omega, ?_, ?_⟩
          · simp at covered
            exact covered.1
          · simpa using result.symm
        next =>
          obtain ⟨other, member, facts⟩ := induction result
          exact ⟨other, List.mem_cons_of_mem shift member, facts⟩

/-- A code point of a character outside ASCII. -/
def IsWide (code : Nat) : Prop :=
  0x80 ≤ code ∧ code.isValidChar

theorem toNat_ofNat_of_isWide {code : Nat} (wide : IsWide code) :
    (Char.ofNat code).toNat = code := by
  rw [Char.ofNat, dif_pos wide.2]
  rfl

theorem isAscii_ofNat_of_isWide {code : Nat} (wide : IsWide code) :
    isAscii (Char.ofNat code) = false := by
  simpa [isAscii, toNat_ofNat_of_isWide wide] using wide.1

/-- Every image of a shift is wide, unless the shift moves a single exception. -/
private def staysWide (exceptions : List Nat) (shift : CaseShift) : Bool :=
  decide (0x80 ≤ shift.first + shift.offset
      ∧ (shift.last + shift.offset < 0xd800
        ∨ 0xdfff < shift.first + shift.offset ∧ shift.last + shift.offset < 0x110000))
    || (shift.first == shift.last && exceptions.contains shift.first)

private theorem isWide_of_shifted {exceptions : List Nat} {shifts : List CaseShift}
    (check : ∀ shift ∈ shifts, staysWide exceptions shift = true)
    {code image : Nat} (result : shifted code shifts = some image) :
    IsWide image ∨ code ∈ exceptions := by
  obtain ⟨shift, member, lower, upper, imageEq⟩ := exists_of_shifted result
  have checked := check shift member
  simp only [staysWide, Bool.or_eq_true, decide_eq_true_eq, Bool.and_eq_true,
    beq_iff_eq, List.contains_iff_mem] at checked
  rcases checked with ⟨large, valid⟩ | ⟨single, listed⟩
  · refine .inl ⟨by omega, ?_⟩
    unfold Nat.isValidChar
    omega
  · have same : code = shift.first := by omega
    exact .inr (same ▸ listed)

set_option maxRecDepth 4000 in
private theorem upperShifts_wide :
    ∀ shift ∈ Table.upperShifts, staysWide [0x131, 0x17f] shift = true := by
  decide

/-- The capital letters of ASCII. -/
def isCapital (c : Char) : Bool :=
  'A' ≤ c && c ≤ 'Z'

private theorem upperExpansions_capital :
    ∀ entry ∈ Table.upperExpansions, ∀ code ∈ entry.2,
      isAscii (Char.ofNat code) = true → isCapital (Char.ofNat code) = true := by
  decide

private theorem upperShifts_exceptions :
    ∀ code ∈ [0x131, 0x17f],
      isCapital (Char.ofNat ((shifted code Table.upperShifts).getD code)) = true := by
  decide

/-- The upper case of a character outside ASCII holds no ASCII character but
capital letters. -/
theorem isCapital_of_mem_upperChar {c d : Char} (wide : isAscii c = false)
    (member : d ∈ upperChar c) (ascii : isAscii d = true) : isCapital d = true := by
  rw [upperChar, wide] at member
  simp only [Bool.false_eq_true, if_false] at member
  split at member
  next codes found =>
    obtain ⟨code, listed, rfl⟩ := List.mem_map.mp member
    obtain ⟨before, after, split, -⟩ := List.lookup_eq_some_iff.mp found
    exact upperExpansions_capital (c.toNat, codes) (by simp [split]) code listed ascii
  next =>
    have equal := List.mem_singleton.mp member
    cases result : shifted c.toNat Table.upperShifts with
    | none =>
        simp only [result, Option.getD_none, Char.ofNat_toNat] at equal
        simp [equal, wide] at ascii
    | some image =>
        rcases isWide_of_shifted upperShifts_wide result with imageWide | exception
        · simp only [result, Option.getD_some] at equal
          simp [equal, isAscii_ofNat_of_isWide imageWide] at ascii
        · exact equal ▸ upperShifts_exceptions c.toNat exception

theorem eq_or_isCapital_of_mem_upperChar {c d : Char} (member : d ∈ upperChar c)
    (ascii : isAscii d = true) : c = d ∧ isAsciiLetter d = false ∨ isCapital d = true := by
  cases wide : isAscii c with
  | false => exact .inr (isCapital_of_mem_upperChar wide member ascii)
  | true =>
      have upper : d = asciiUpper c := by simpa [upperChar, wide] using member
      subst upper
      exact ascii_cases
        (fun c => c = asciiUpper c ∧ isAsciiLetter (asciiUpper c) = false ∨
          isCapital (asciiUpper c) = true)
        (by decide) wide

set_option maxRecDepth 8000 in
private theorem upperShifts_avoid_blanks :
    ∀ shift ∈ Table.upperShifts, ∀ code ∈ wideBlanks,
      (code : Int) < shift.first + shift.offset ∨
        shift.last + shift.offset < (code : Int) := by
  decide

private theorem upperExpansions_visible :
    ∀ entry ∈ Table.upperExpansions, ∀ code ∈ entry.2,
      isBlank (Char.ofNat code) = false := by
  decide

private theorem isBlank_asciiUpper {c : Char} (ascii : isAscii c = true)
    (visible : isBlank c = false) : isBlank (asciiUpper c) = false :=
  ascii_cases (fun c => isBlank c = false → isBlank (asciiUpper c) = false)
    (by decide) ascii visible

private theorem isBlank_of_isCapital {c : Char} (capital : isCapital c = true) :
    isBlank c = false := by
  have ascii : isAscii c = true := by
    simp only [isCapital, Bool.and_eq_true, decide_eq_true_eq] at capital
    have small : c.toNat ≤ 90 := capital.2
    simp only [isAscii, decide_eq_true_eq]
    omega
  exact ascii_cases (fun c => isCapital c = true → isBlank c = false) (by decide) ascii capital

private theorem isBlank_shifted {code image : Nat} (wide : IsWide image)
    (result : shifted code Table.upperShifts = some image) :
    isBlank (Char.ofNat image) = false := by
  cases blank : isBlank (Char.ofNat image) with
  | false => rfl
  | true =>
      have listed := mem_wideBlanks (isAscii_ofNat_of_isWide wide) blank
      rw [toNat_ofNat_of_isWide wide] at listed
      obtain ⟨shift, member, lower, upper, imageEq⟩ := exists_of_shifted result
      have avoided := upperShifts_avoid_blanks shift member image listed
      have large := wide.1
      omega

theorem isBlank_of_mem_upperChar {c d : Char} (visible : isBlank c = false)
    (member : d ∈ upperChar c) : isBlank d = false := by
  cases wide : isAscii c with
  | true =>
      have upper : d = asciiUpper c := by simpa [upperChar, wide] using member
      exact upper ▸ isBlank_asciiUpper wide visible
  | false =>
      rw [upperChar, wide] at member
      simp only [Bool.false_eq_true, if_false] at member
      split at member
      next codes found =>
        obtain ⟨code, listed, rfl⟩ := List.mem_map.mp member
        obtain ⟨before, after, split, -⟩ := List.lookup_eq_some_iff.mp found
        exact upperExpansions_visible (c.toNat, codes) (by simp [split]) code listed
      next =>
        have equal := List.mem_singleton.mp member
        cases result : shifted c.toNat Table.upperShifts with
        | none =>
            rw [result, Option.getD_none, Char.ofNat_toNat] at equal
            exact equal ▸ visible
        | some image =>
            rcases isWide_of_shifted upperShifts_wide result with imageWide | exception
            · rw [result, Option.getD_some] at equal
              exact equal ▸ isBlank_shifted imageWide result
            · exact equal ▸ isBlank_of_isCapital (upperShifts_exceptions c.toNat exception)

set_option maxRecDepth 4000 in
theorem upperChar_of_isBlank {c : Char} (blank : isBlank c = true) : upperChar c = [c] :=
  blank_cases (fun c => upperChar c = [c]) (by decide) (by decide) blank

theorem eq_of_mem_upperChar {c mark : Char} (ascii : isAscii mark = true)
    (noLetter : isAsciiLetter mark = false) (member : mark ∈ upperChar c) : c = mark := by
  rcases eq_or_isCapital_of_mem_upperChar member ascii with ⟨same, -⟩ | capital
  · exact same
  · rw [isCapital] at capital
    simp [isAsciiLetter, capital] at noLetter

theorem not_mem_upperChar_of_small {c small : Char} (ascii : isAscii small = true)
    (letter : isAsciiLetter small = true) (noCapital : isCapital small = false) :
    small ∉ upperChar c := by
  intro member
  rcases eq_or_isCapital_of_mem_upperChar member ascii with ⟨-, noLetter⟩ | capital
  · rw [letter] at noLetter
    cases noLetter
  · rw [noCapital] at capital
    cases capital

set_option maxRecDepth 4000 in
private theorem lowerShifts_wide :
    ∀ shift ∈ Table.lowerShifts, staysWide [0x212a] shift = true := by
  decide

/-- The code points outside ASCII that are folded into ASCII. -/
private def foldedInside : List Nat :=
  [0x130, 0x131, 0x17f, 0x212a]

set_option maxRecDepth 4000 in
private theorem lowerShifts_avoid :
    ∀ shift ∈ Table.lowerShifts, ∀ code ∈ foldedInside,
      (code : Int) < shift.first + shift.offset ∨
        shift.last + shift.offset < (code : Int) := by
  decide

private theorem lowerTwins_wide :
    ∀ entry ∈ Table.lowerTwins,
      (0x80 ≤ entry.2 ∧ entry.2.isValidChar) ∨ entry.1 ∈ foldedInside := by
  decide

private theorem isWide_of_twin {code : Nat} (wide : IsWide code)
    (outside : code ∉ foldedInside) :
    IsWide ((Table.lowerTwins.lookup code).getD code) := by
  cases found : Table.lowerTwins.lookup code with
  | none => exact wide
  | some twin =>
      obtain ⟨before, after, split, -⟩ := List.lookup_eq_some_iff.mp found
      rcases lowerTwins_wide (code, twin) (by simp [split]) with twinWide | inside
      · exact twinWide
      · exact absurd inside outside

private theorem isWide_toNat {c : Char} (wide : isAscii c = false) : IsWide c.toNat :=
  ⟨by simpa [isAscii] using wide, c.valid⟩

/-- Only four characters outside ASCII are folded into ASCII. -/
private theorem mem_foldedInside {c : Char} (wide : isAscii c = false)
    (ascii : isAscii (fold c) = true) : c.toNat ∈ foldedInside := by
  by_contra outside
  have dotless : (c == 'İ') = false := by
    rw [beq_eq_false_iff_ne]
    intro same
    exact outside (by subst same; decide)
  have foldedWide : IsWide ((shifted c.toNat Table.lowerShifts).getD c.toNat) ∧
      (shifted c.toNat Table.lowerShifts).getD c.toNat ∉ foldedInside := by
    cases result : shifted c.toNat Table.lowerShifts with
    | none => exact ⟨isWide_toNat wide, outside⟩
    | some image =>
        rcases isWide_of_shifted lowerShifts_wide result with imageWide | kelvin
        · refine ⟨imageWide, fun inside => ?_⟩
          obtain ⟨shift, member, lower, upper, imageEq⟩ := exists_of_shifted result
          have avoided := lowerShifts_avoid shift member image inside
          have large := imageWide.1
          omega
        · exact absurd (by simp [foldedInside, List.mem_singleton.mp kelvin]) outside
  have twinWide := isWide_of_twin foldedWide.1 foldedWide.2
  rw [fold, wide] at ascii
  simp [dotless, isAscii_ofNat_of_isWide twinWide] at ascii

/-- A property that holds of ASCII characters and of the four others that are
folded into ASCII holds of every character whose folding is in ASCII. -/
theorem folded_cases (property : Char → Prop)
    (check : ∀ code : Fin 128, property (Char.ofNat code))
    (others : ∀ code ∈ [0x130, 0x131, 0x17f, 0x212a], property (Char.ofNat code))
    {c : Char} (ascii : isAscii (fold c) = true) : property c := by
  cases wide : isAscii c with
  | true => exact ascii_cases property check wide
  | false => simpa [Char.ofNat_toNat] using others c.toNat (mem_foldedInside wide ascii)

@[simp] theorem sameLetter_refl (c : Char) : sameLetter c c = true := by
  simp [sameLetter]

/-- The letters of a text up to case. -/
def folded (text : Text) : Text :=
  text.map fold

@[simp] theorem folded_append (left right : Text) :
    folded (left ++ right) = folded left ++ folded right :=
  List.map_append

@[simp] theorem length_folded (text : Text) : (folded text).length = text.length :=
  List.length_map fold

theorem length_eq_of_folded {left right : Text} (same : folded left = folded right) :
    left.length = right.length := by
  rw [← length_folded left, ← length_folded right, same]

theorem afterFolded?_eq_some_iff {start text rest : Text} :
    afterFolded? start text = some rest ↔
      ∃ head, text = head ++ rest ∧ folded head = folded start := by
  induction start generalizing text with
  | nil => simp [afterFolded?, folded]
  | cons p start induction =>
      cases text with
      | nil => simp [afterFolded?, folded]
      | cons c text =>
          rw [afterFolded?]
          constructor
          · intro found
            split at found
            next same =>
              obtain ⟨head, rfl, equal⟩ := induction.mp found
              rw [sameLetter, beq_iff_eq] at same
              refine ⟨c :: head, rfl, ?_⟩
              simp only [folded, List.map_cons] at equal ⊢
              rw [same, equal]
            next => cases found
          · rintro ⟨head, split, equal⟩
            cases head with
            | nil => simp [folded] at equal
            | cons d head =>
                simp only [folded, List.map_cons, List.cons.injEq] at equal
                obtain ⟨rfl, rfl⟩ : c = d ∧ text = head ++ rest := by simpa using split
                rw [if_pos (by simp [sameLetter, equal.1])]
                exact induction.mpr ⟨head, rfl, equal.2⟩

theorem afterFolded?_of_folded {start word : Text} (text : Text)
    (same : folded word = folded start) :
    afterFolded? start (word ++ text) = some text :=
  afterFolded?_eq_some_iff.mpr ⟨word, rfl, same⟩

theorem afterFolded?_congr {start other : Text} (same : folded start = folded other) :
    afterFolded? start = afterFolded? other := by
  funext text
  refine Option.ext fun rest => ?_
  rw [afterFolded?_eq_some_iff, afterFolded?_eq_some_iff, same]

end SqlFanout.Text

namespace SqlFanout.Sql

open Text

theorem isAscii_fold_of_isNameChar {c : Char} (name : isNameChar c = true) :
    isAscii (fold c) = true := by
  have ofAscii : isAscii c = true → isAscii (fold c) = true :=
    ascii_cases (fun c => isAscii (fold c) = true) (by decide)
  simp only [isNameChar, isNameStart, Bool.or_eq_true, Bool.and_eq_true,
    decide_eq_true_eq, beq_iff_eq] at name
  rcases name with (⟨-, letter⟩ | underscore) | digit
  · have small : (fold c).toNat ≤ 122 := letter
    simp only [isAscii, decide_eq_true_eq]
    omega
  · exact ofAscii (by subst underscore; decide)
  · exact ofAscii (isAscii_of_isAsciiDigit digit)

set_option maxRecDepth 4000 in
theorem isWord_of_isNameChar {c : Char} (name : isNameChar c = true) :
    isWord c = true :=
  folded_cases (fun c => isNameChar c = true → isWord c = true)
    (by decide) (by decide) (isAscii_fold_of_isNameChar name) name

set_option maxRecDepth 4000 in
theorem isNameChar_fold {c : Char} (ascii : isAscii (fold c) = true) :
    isNameChar (fold c) = isNameChar c :=
  folded_cases (fun c => isNameChar (fold c) = isNameChar c)
    (by decide) (by decide) ascii

theorem isNameChar_of_sameLetter {c d : Char} (same : sameLetter c d = true)
    (name : isNameChar c = true) : isNameChar d = true := by
  rw [sameLetter, beq_iff_eq] at same
  have ascii : isAscii (fold c) = true := isAscii_fold_of_isNameChar name
  rw [← isNameChar_fold (same ▸ ascii), ← same, isNameChar_fold ascii]
  exact name

theorem isWord_of_sameLetter {c d : Char} (same : sameLetter c d = true)
    (name : isNameChar c = true) : isWord d = true :=
  isWord_of_isNameChar (isNameChar_of_sameLetter same name)

end SqlFanout.Sql
