import Mathlib.Data.List.Basic
import SqlFanout.Proofs.Renaming
import SqlFanout.Proofs.Suffixes

/-!
# Plain names

A plain name is an ASCII name that is no reserved word.  Comparing without regard
to case is the same as lowering for ASCII texts, so that no spelling of a plain
name is reserved either, and a plain name never takes part in a clause as one of
its keywords.
-/

namespace SqlFanout.Text

theorem isAscii_fold_of_isAscii {c : Char} (ascii : isAscii c = true) :
    isAscii (fold c) = true :=
  ascii_cases (fun c => isAscii (fold c) = true) (by decide) ascii

set_option maxRecDepth 4000 in
/-- A letter that is folded into ASCII is lowered to the same letter, or to
something outside ASCII. -/
private theorem lowerChar_cases {c : Char} (ascii : isAscii (fold c) = true) :
    lowerChar c = [fold c] ∨ (lowerChar c).all isAscii = false :=
  folded_cases (fun c => lowerChar c = [fold c] ∨ (lowerChar c).all isAscii = false)
    (by decide) (by decide) ascii

private theorem ne_sigma {c : Char} (ascii : isAscii (fold c) = true) : (c == 'Σ') = false := by
  rw [beq_eq_false_iff_ne]
  rintro rfl
  revert ascii
  decide

theorem lower_eq_flatMap {text : Text} (letters : ∀ c ∈ text, isAscii (fold c) = true) :
    lower text = text.flatMap lowerChar := by
  have anywhere : ∀ before, lowerFrom before text = text.flatMap lowerChar := by
    induction text with
    | nil => intro before; rfl
    | cons c rest induction =>
        intro before
        have letter := letters c List.mem_cons_self
        have later := induction (fun d member => letters d (List.mem_cons_of_mem c member))
          (c :: before)
        simp only [lowerFrom, ne_sigma letter, Bool.false_eq_true, if_false, later,
          List.flatMap_cons]
  exact anywhere []

private theorem lower_eq_folded {text : Text}
    (letters : ∀ c ∈ text, isAscii (fold c) = true)
    (ascii : (lower text).all isAscii = true) : lower text = folded text := by
  rw [lower_eq_flatMap letters] at ascii ⊢
  induction text with
  | nil => rfl
  | cons c rest induction =>
      rw [List.flatMap_cons, List.all_append, Bool.and_eq_true] at ascii
      rw [List.flatMap_cons]
      rcases lowerChar_cases (letters c List.mem_cons_self) with lowered | wide
      · rw [lowered, induction (fun d member => letters d (List.mem_cons_of_mem c member))
          ascii.2]
        rfl
      · rw [wide] at ascii
        cases ascii.1

theorem lower_of_isAscii {text : Text} (ascii : ∀ c ∈ text, isAscii c = true) :
    lower text = folded text := by
  have single : ∀ c ∈ text, lowerChar c = [fold c] := by
    intro c member
    simp [lowerChar, fold, ascii c member]
  rw [lower_eq_flatMap fun c member => isAscii_fold_of_isAscii (ascii c member),
    List.flatMap_congr single]
  exact List.flatMap_pure_eq_map fold text

/-- A text that consists of ASCII word characters. -/
def IsAsciiWord (text : Text) : Prop :=
  ∀ c ∈ text, isAscii c = true ∧ isWord c = true

theorem isAsciiWord_of_all {text : Text}
    (all : (text.all fun c => isAscii c && isWord c) = true) : IsAsciiWord text := by
  intro c member
  simpa using List.all_eq_true.mp all c member

end SqlFanout.Text

namespace SqlFanout.Sql

open Text

theorem isNameChar_of_isAscii {c : Char} (ascii : isAscii c = true)
    (letter : isWord c = true) : isNameChar c = true :=
  ascii_cases (fun c => isWord c = true → isNameChar c = true) (by decide) ascii letter

private theorem reservedWords_ascii :
    reservedWords.all (fun word => word.all isAscii) = true := by
  decide

/-- No spelling of an ASCII text is reserved unless the text itself is. -/
theorem lower_not_mem_reservedWords {name spelling : Text}
    (ascii : ∀ c ∈ name, isAscii c = true) (free : lower name ∉ reservedWords)
    (same : folded spelling = folded name) : lower spelling ∉ reservedWords := by
  intro reserved
  have letters : ∀ c ∈ spelling, isAscii (fold c) = true := by
    intro c member
    have inside : fold c ∈ folded name := same ▸ List.mem_map_of_mem member
    obtain ⟨d, listed, equal⟩ := List.mem_map.mp inside
    rw [← equal]
    exact isAscii_fold_of_isAscii (ascii d listed)
  have lowered := List.all_eq_true.mp reservedWords_ascii (lower spelling) reserved
  have equal : lower spelling = lower name := by
    rw [lower_of_isAscii ascii, ← same]
    exact lower_eq_folded letters lowered
  exact free (equal ▸ reserved)

theorem lower_not_mem_of_showsDigit {text : Text} (ascii : ∀ c ∈ text, isAscii c = true)
    (shows : ShowsDigit text) : lower text ∉ reservedWords := by
  have letters : reservedWords.all (fun word => !word.any isAsciiDigit) = true := by decide
  obtain ⟨d, member, digit⟩ := shows.folded
  rw [lower_of_isAscii ascii]
  intro reserved
  have absent := List.all_eq_true.mp letters (folded text) reserved
  simp [List.any_eq_true.mpr ⟨d, member, digit⟩] at absent

theorem startsClause_of_showsDigit {text : Text} (shows : ShowsDigit text) :
    startsClause text = false := by
  have keywords : ∀ words ∈ tableClauses, ∀ word ∈ words.head?,
      (folded word).any isAsciiDigit = false := by
    decide
  obtain ⟨d, member, digit⟩ := shows.folded
  refine List.any_eq_false.mpr fun words clause started => ?_
  obtain ⟨word, others, rfl, -⟩ := keyword_cases clause
  have same : folded word = folded text := by simpa using started
  exact List.any_eq_false.mp (keywords _ clause word rfl) d (same ▸ member) digit

theorem renamable_of_showsDigit {table suffix : Text} (wordlike : Wordlike table)
    (idle : startsClause table = false) (shows : ShowsDigit suffix) :
    Renamable suffix table :=
  ⟨wordlike, idle, startsClause_of_showsDigit (shows.append_left table)⟩

theorem isName_iff {name : Text} :
    isName name = true ↔
      name.head?.any isNameStart = true ∧ ∀ c ∈ name, isNameChar c = true := by
  cases name with
  | nil => simp [isName]
  | cons c rest =>
      have start : isNameStart c = true → isNameChar c = true := by
        intro first
        simp [isNameChar, first]
      simp only [isName, Bool.and_eq_true, List.all_eq_true, List.head?_cons,
        Option.any_some, List.forall_mem_cons]
      constructor
      · rintro ⟨first, others⟩
        exact ⟨first, start first, others⟩
      · rintro ⟨first, -, others⟩
        exact ⟨first, others⟩

set_option maxRecDepth 4000 in
private theorem isNameStart_of_sameLetter {c d : Char} (same : fold c = fold d)
    (start : isNameStart c = true) : isNameStart d = true := by
  have name : isNameChar c = true := by simp [isNameChar, start]
  have ascii : isAscii (fold c) = true := isAscii_fold_of_isNameChar name
  have settled : ∀ e, isAscii (fold e) = true → isNameStart (fold e) = isNameStart e := by
    intro e
    exact folded_cases (fun e => isNameStart (fold e) = isNameStart e) (by decide) (by decide)
  rw [← settled d (same ▸ ascii), ← same, settled c ascii]
  exact start

theorem isName_of_folded {name spelling : Text} (same : folded spelling = folded name)
    (valid : isName name = true) : isName spelling = true := by
  rw [isName_iff] at valid ⊢
  constructor
  · cases name with
    | nil => cases valid.1
    | cons c rest =>
        cases spelling with
        | nil => cases same
        | cons d others =>
            have first : fold d = fold c := (List.cons.inj same).1
            exact isNameStart_of_sameLetter first.symm valid.1
  · intro c member
    have inside : fold c ∈ folded name := same ▸ List.mem_map_of_mem member
    obtain ⟨d, listed, equal⟩ := List.mem_map.mp inside
    exact isNameChar_of_sameLetter (by simp [sameLetter, equal]) (valid.2 d listed)

theorem wordlike_of_isName {name : Text} (valid : isName name = true) : Wordlike name := by
  obtain ⟨start, letters⟩ := isName_iff.mp valid
  apply Wordlike.of_isNameChar _ letters
  rintro rfl
  cases start

/-- A name that consists of ASCII letters, digits and underscores. -/
structure AsciiName (name : Text) : Prop where
  isName : isName name = true
  ascii : ∀ c ∈ name, isAscii c = true

namespace AsciiName

variable {name : Text}

theorem wordlike (ascii : AsciiName name) : Wordlike name :=
  wordlike_of_isName ascii.isName

theorem append (ascii : AsciiName name) {suffix : Text} (word : IsAsciiWord suffix) :
    AsciiName (name ++ suffix) := by
  obtain ⟨start, letters⟩ := isName_iff.mp ascii.isName
  refine ⟨isName_iff.mpr ⟨?_, ?_⟩, ?_⟩
  · cases name with
    | nil => cases start
    | cons c rest => exact start
  · intro c member
    rcases List.mem_append.mp member with inName | inSuffix
    · exact letters c inName
    · exact isNameChar_of_isAscii (word c inSuffix).1 (word c inSuffix).2
  · intro c member
    rcases List.mem_append.mp member with inName | inSuffix
    · exact ascii.ascii c inName
    · exact (word c inSuffix).1

end AsciiName

/-- An ASCII name that is no reserved word. -/
structure PlainName (name : Text) : Prop where
  isName : isName name = true
  ascii : ∀ c ∈ name, isAscii c = true
  free : lower name ∉ reservedWords

namespace PlainName

variable {name : Text}

theorem asciiName (plain : PlainName name) : AsciiName name :=
  ⟨plain.isName, plain.ascii⟩

theorem wordlike (plain : PlainName name) : Wordlike name :=
  plain.asciiName.wordlike

theorem folded_not_mem (plain : PlainName name) : folded name ∉ reservedWords := by
  rw [← lower_of_isAscii plain.ascii]
  exact plain.free

theorem startsClause (plain : PlainName name) : startsClause name = false := by
  have reserved : ∀ words ∈ tableClauses, ∀ word ∈ words.head?,
      folded word ∈ reservedWords := by
    decide
  refine List.any_eq_false.mpr fun words clause started => ?_
  obtain ⟨word, others, rfl, -⟩ := keyword_cases clause
  have same : folded word = folded name := by simpa using started
  exact plain.folded_not_mem (same ▸ reserved _ clause word rfl)

theorem isName_append (plain : PlainName name) {suffix : Text} (word : IsAsciiWord suffix) :
    Sql.isName (name ++ suffix) = true :=
  (plain.asciiName.append word).isName

theorem lower_append_not_mem (plain : PlainName name) {suffix : Text}
    (word : IsAsciiWord suffix) (shows : ShowsDigit suffix) :
    lower (name ++ suffix) ∉ reservedWords :=
  lower_not_mem_of_showsDigit (plain.asciiName.append word).ascii (shows.append_left name)

end PlainName

end SqlFanout.Sql
