import SqlFanout.Proofs.CodeWords
import SqlFanout.Proofs.TopLevel

/-!
# Declared names

What is read as a declaration is a word, a name and an equals sign, with nothing but
blanks between them, so that a search for it may be cut at every other mark
(`first?_append_mark`): it comes to the same in a literal and in the text that was
written there.  The name stands between the last two blanks in front of an equals sign;
therefore the line that declares the builder declares nothing in another language, and
the last line never declares the builder (`mem_declaredNames_render_iff`).
-/

namespace SqlFanout.Text

section Mark

variable {mark : Char} (right : Text)

theorem afterStart?_append_mark {start : Text} (absent : mark ∉ start) (text : Text) :
    afterStart? start (text ++ mark :: right) =
      (afterStart? start text).map (· ++ mark :: right) := by
  induction start generalizing text with
  | nil => rfl
  | cons c start induction =>
      have differ : c ≠ mark := fun same => absent (same ▸ List.mem_cons_self)
      cases text with
      | nil => simp [afterStart?, differ]
      | cons d text =>
          rw [List.cons_append, afterStart?, afterStart?,
            induction fun member => absent (List.mem_cons_of_mem c member)]
          split <;> rfl

theorem trimLeft_append_mark (visible : isBlank mark = false) (text : Text) :
    trimLeft (text ++ mark :: right) = trimLeft text ++ mark :: right := by
  rw [trimLeft, trimLeft, List.dropWhile_append]
  split
  next none => simp [List.isEmpty_iff.mp none, visible]
  next => rfl

theorem afterBlanks?_append_mark (visible : isBlank mark = false) (text : Text) :
    afterBlanks? (text ++ mark :: right) = (afterBlanks? text).map (· ++ mark :: right) := by
  cases text with
  | nil => simp [afterBlanks?, visible]
  | cons c text =>
      rw [List.cons_append, afterBlanks?, afterBlanks?, trimLeft_append_mark right visible]
      split <;> rfl

theorem takeWhile_append_mark (noWord : isWord mark = false) (text : Text) :
    (text ++ mark :: right).takeWhile isWord = text.takeWhile isWord := by
  rw [List.takeWhile_append]
  split
  next whole =>
    have all : text.takeWhile isWord = text :=
      (List.takeWhile_prefix isWord).eq_of_length whole
    simp [noWord, all]
  next => rfl

theorem dropWhile_append_mark (noWord : isWord mark = false) (text : Text) :
    (text ++ mark :: right).dropWhile isWord = text.dropWhile isWord ++ mark :: right := by
  rw [List.dropWhile_append]
  split
  next none => simp [List.isEmpty_iff.mp none, noWord]
  next => rfl

end Mark

namespace Finder

variable {α : Type} {find : Finder α}

theorem first?_eq_some {before : Option Char} {text : Text} {value : α}
    (found : find.first? before text = some value) :
    ∃ front rest last tail, text = front ++ rest ∧ find last rest = some (value, tail) := by
  induction text generalizing before with
  | nil => cases found
  | cons c text induction =>
      rw [first?] at found
      split at found
      next other tail met =>
        cases found
        exact ⟨[], c :: text, before, tail, rfl, met⟩
      next =>
        obtain ⟨front, rest, last, tail, rfl, met⟩ := induction found
        exact ⟨c :: front, rest, last, tail, rfl, met⟩

end Finder

/-- Only one cut of a text leaves behind it what a predicate holds of, and ends in front
of it in something else. -/
theorem cut_unique {p : Char → Bool} {left right leftTail rightTail : Text}
    (same : left ++ leftTail = right ++ rightTail) (leftAll : ∀ c ∈ leftTail, p c = true)
    (rightAll : ∀ c ∈ rightTail, p c = true) (leftLast : ∀ c ∈ left.getLast?, p c = false)
    (rightLast : ∀ c ∈ right.getLast?, p c = false) : left = right ∧ leftTail = rightTail := by
  have fronts : left = right := by
    rw [← dropTrailing_eq_self leftLast, ← dropTrailing_append_of_all left leftAll, same,
      dropTrailing_append_of_all right rightAll, dropTrailing_eq_self rightLast]
  subst fronts
  exact ⟨rfl, List.append_cancel_left same⟩

end SqlFanout.Text

namespace SqlFanout.Builder

open Text

namespace DeclarationShape

theorem afterWords?_cons_cons (word next : Text) (words : List Text) (text : Text) :
    afterWords? (word :: next :: words) text =
      match afterStart? word text with
      | none => none
      | some rest =>
          match afterBlanks? rest with
          | none => none
          | some behind => afterWords? (next :: words) behind := rfl

theorem afterWords?_append_mark {mark : Char} (visible : isBlank mark = false) (right : Text)
    {words : List Text} (foreign : ∀ word ∈ words, mark ∉ word) (text : Text) :
    afterWords? words (text ++ mark :: right) =
      (afterWords? words text).map (· ++ mark :: right) := by
  induction words generalizing text with
  | nil => rfl
  | cons word words induction =>
      have absent := foreign word List.mem_cons_self
      cases words with
      | nil => exact afterStart?_append_mark right absent text
      | cons next words =>
          have later := induction fun word member => foreign word (List.mem_cons_of_mem _ member)
          rw [afterWords?_cons_cons, afterWords?_cons_cons, afterStart?_append_mark right absent]
          cases afterStart? word text with
          | none => rfl
          | some rest =>
              simp only [Option.map_some, afterBlanks?_append_mark right visible]
              cases afterBlanks? rest with
              | none => rfl
              | some behind => exact later behind

/-- A mark that no part of a declaration is read over. -/
structure Foreign (shape : DeclarationShape) (mark : Char) : Prop where
  visible : isBlank mark = false
  noWord : isWord mark = false
  noEquals : mark ≠ '='
  opener : mark ∉ shape.opener
  creator : ∀ word ∈ shape.creator, mark ∉ word

theorem finder_append_mark {shape : DeclarationShape} {mark : Char} (foreign : shape.Foreign mark)
    (right : Text) (before : Option Char) (text : Text) :
    shape.finder before (text ++ mark :: right) =
      (shape.finder before text).map fun (name, tail) => (name, tail ++ mark :: right) := by
  rw [finder, finder, afterStart?_append_mark right foreign.opener]
  cases afterStart? shape.opener text with
  | none => rfl
  | some rest =>
      simp only [Option.map_some, afterBlanks?_append_mark right foreign.visible]
      cases afterBlanks? rest with
      | none => rfl
      | some body =>
          simp only [Option.map_some, takeWhile_append_mark right foreign.noWord,
            dropWhile_append_mark right foreign.noWord,
            trimLeft_append_mark right foreign.visible]
          cases body.takeWhile isWord with
          | nil => rfl
          | cons c name =>
              cases trimLeft (body.dropWhile isWord) with
              | nil => simp [foreign.noEquals]
              | cons d after =>
                  by_cases equals : d = '='
                  · subst equals
                    have created := afterWords?_append_mark foreign.visible right foreign.creator
                      (trimLeft after)
                    simp only [List.cons_append, trimLeft_append_mark right foreign.visible,
                      created]
                    split
                    · rfl
                    · cases afterWords? shape.creator (trimLeft after) <;> rfl
                  · simp [equals]

theorem first?_before (shape : DeclarationShape) (before : Option Char) (text : Text) :
    shape.finder.first? before text = shape.finder.first? none text := by
  cases text <;> rfl

/-- A search for a declaration may be cut at a mark. -/
theorem first?_append_mark {shape : DeclarationShape} {mark : Char} (foreign : shape.Foreign mark)
    (some : shape.opener ≠ []) (before : Option Char) (left right : Text) :
    shape.finder.first? before (left ++ mark :: right) =
      (shape.finder.first? before left).or (shape.finder.first? none right) := by
  induction left generalizing before with
  | nil =>
      have start : shape.finder before [] = none := by
        obtain ⟨c, opener, nonempty⟩ := List.exists_cons_of_ne_nil some
        rw [finder, nonempty, afterStart?]
      have silent : shape.finder before (mark :: right) = none := by
        have met := finder_append_mark foreign right before []
        rw [start] at met
        exact met
      have step : shape.finder.first? before (mark :: right) =
          shape.finder.first? (Option.some mark) right := by
        rw [Finder.first?, silent]
      exact step.trans (first?_before shape _ right)
  | cons c left induction =>
      have met := finder_append_mark foreign right before (c :: left)
      rw [List.cons_append] at met ⊢
      rw [Finder.first?, Finder.first?, met]
      cases shape.finder before (c :: left) with
      | none => exact induction _
      | some found => rfl

theorem finder_eq_some {shape : DeclarationShape} {before : Option Char}
    {text name tail : Text} (found : shape.finder before text = some (name, tail)) :
    ∃ blanks gap after, text = shape.opener ++ (blanks ++ (name ++ (gap ++ '=' :: after))) ∧
      (blanks ≠ [] ∧ ∀ c ∈ blanks, isBlank c = true) ∧
      (name ≠ [] ∧ ∀ c ∈ name, isWord c = true) ∧ (∀ c ∈ gap, isBlank c = true) ∧
      (shape.creator = [] ∨ (afterWords? shape.creator (trimLeft after)).isSome = true) := by
  rw [finder] at found
  split at found
  · cases found
  next rest opened =>
    split at found
    · cases found
    next body parted =>
      obtain rfl := afterStart?_eq_some_iff.mp opened
      obtain ⟨blanks, rfl, blanksSome, blank⟩ := Sql.afterBlanks?_eq_some parted
      have letters : ∀ c ∈ body.takeWhile isWord, isWord c = true :=
        fun c => List.mem_takeWhile_imp
      have gapBlank : ∀ c ∈ (body.dropWhile isWord).takeWhile isBlank, isBlank c = true :=
        fun c => List.mem_takeWhile_imp
      have split : body = body.takeWhile isWord ++
          ((body.dropWhile isWord).takeWhile isBlank ++ trimLeft (body.dropWhile isWord)) := by
        rw [trimLeft, List.takeWhile_append_dropWhile, List.takeWhile_append_dropWhile]
      cases equals : trimLeft (body.dropWhile isWord) with
      | nil => simp [equals] at found
      | cons d after =>
          by_cases same : d = '='
          · subst same
            cases named : body.takeWhile isWord with
            | nil => simp [named] at found
            | cons c word =>
                simp only [named, equals] at found letters split
                have created : shape.creator = [] ∨
                    (afterWords? shape.creator (trimLeft after)).isSome = true := by
                  split at found
                  next empty => exact .inl (List.isEmpty_iff.mp empty)
                  next =>
                    obtain ⟨rest, made, -⟩ := Option.map_eq_some_iff.mp found
                    exact .inr (by rw [made]; rfl)
                have value : c :: word = name := by
                  split at found
                  · cases found
                    rfl
                  · obtain ⟨rest, -, pair⟩ := Option.map_eq_some_iff.mp found
                    cases pair
                    rfl
                rw [← value]
                refine ⟨blanks, _, after, ?_, ⟨blanksSome, blank⟩,
                  ⟨List.cons_ne_nil c word, letters⟩, gapBlank, created⟩
                rw [← split]
          · simp [equals, same] at found

theorem first?_of_no_equals {shape : DeclarationShape} {text : Text} (absent : '=' ∉ text)
    (before : Option Char) : shape.finder.first? before text = none := by
  cases found : shape.finder.first? before text with
  | none => rfl
  | some name =>
      obtain ⟨front, rest, last, tail, rfl, met⟩ := Finder.first?_eq_some found
      obtain ⟨blanks, gap, after, rfl, -⟩ := finder_eq_some met
      simp at absent

/-- A declaration that opens with a word. -/
structure Worded (shape : DeclarationShape) : Prop where
  nonempty : shape.opener ≠ []
  letters : ∀ c ∈ shape.opener, isWord c = true

/-- In a line with one equals sign, what is declared is the text between the last spaces
in front of it, and the opening word stands before that. -/
theorem first?_eq_some_of_line {shape : DeclarationShape} (worded : shape.Worded)
    {head word after name : Text} (headLetters : ∀ c ∈ head, isWord c = true)
    (wordSome : word ≠ []) (wordVisible : ∀ c ∈ word, isBlank c = false) (wordFree : '=' ∉ word)
    (afterFree : '=' ∉ after)
    (found : shape.finder.first? none (head ++ ' ' :: (word ++ ' ' :: '=' :: after)) =
      some name) :
    name = word ∧ shape.opener <:+ head ∧
      (shape.creator = [] ∨ (afterWords? shape.creator (trimLeft after)).isSome = true) := by
  obtain ⟨front, rest, last, tail, line, met⟩ := Finder.first?_eq_some found
  obtain ⟨blanks, gap, behind, rfl, ⟨blanksSome, blank⟩, ⟨nameSome, letters⟩, gapBlank,
    created⟩ := finder_eq_some met
  have equalsNoWord : isWord '=' = false := by decide
  have headFree : '=' ∉ head := by
    intro member
    rw [headLetters _ member] at equalsNoWord
    cases equalsNoWord
  have beforeFree : '=' ∉ head ++ ' ' :: (word ++ [' ']) := by
    simp [headFree, wordFree]
  have parts : (head ++ ' ' :: (word ++ [' '])) ++ '=' :: after =
      (front ++ (shape.opener ++ (blanks ++ (name ++ gap)))) ++ '=' :: behind := by
    simpa using line
  obtain ⟨same, -, rfl⟩ := (List.append_cons_inj_of_notMem beforeFree afterFree).mp parts
  have visibleLast : ∀ {lead text : Text}, text ≠ [] → (∀ c ∈ text, isBlank c = false) →
      ∀ c ∈ (lead ++ text).getLast?, isBlank c = false := by
    intro lead text nonempty visible c final
    rw [List.getLast?_append_of_ne_nil lead nonempty] at final
    exact visible c (List.mem_of_mem_getLast? final)
  have blankLast : ∀ {lead text : Text}, text ≠ [] → (∀ c ∈ text, isBlank c = true) →
      ∀ c ∈ (lead ++ text).getLast?, (!isBlank c) = false := by
    intro lead text nonempty allBlank c final
    rw [List.getLast?_append_of_ne_nil lead nonempty] at final
    simp [allBlank c (List.mem_of_mem_getLast? final)]
  have space : ∀ c ∈ [' '], isBlank c = true := List.all_eq_true.mp (by decide)
  have nameVisible : ∀ c ∈ name, isBlank c = false := fun c member =>
    isBlank_of_isWord (letters c member)
  have openerVisible : ∀ c ∈ shape.opener, isBlank c = false := fun c member =>
    isBlank_of_isWord (worded.letters c member)
  obtain ⟨named, -⟩ : (head ++ [' ']) ++ word = (front ++ shape.opener ++ blanks) ++ name ∧
      [' '] = gap :=
    cut_unique (by simpa using same) space gapBlank (visibleLast wordSome wordVisible)
      (visibleLast nameSome nameVisible)
  obtain ⟨parted, value⟩ : head ++ [' '] = (front ++ shape.opener) ++ blanks ∧ word = name :=
    cut_unique named (by simpa using wordVisible) (by simpa using nameVisible)
      (blankLast (List.cons_ne_nil _ _) space) (blankLast blanksSome blank)
  have headLast : ∀ c ∈ head.getLast?, isBlank c = false := fun c final =>
    isBlank_of_isWord (headLetters c (List.mem_of_mem_getLast? final))
  obtain ⟨opened, -⟩ : head = front ++ shape.opener ∧ [' '] = blanks :=
    cut_unique parted space blank headLast (visibleLast worded.nonempty openerVisible)
  exact ⟨value.symm, ⟨front, opened.symm⟩, created⟩

end DeclarationShape

namespace CodeRequest

theorem worded (language : Language) : language.dialect.declarationShape.Worded := by
  constructor
  · cases language <;> decide
  · apply List.all_eq_true.mp
    cases language <;> decide

/-- The line that declares a builder does so in its own language only. -/
theorem first?_declarationLine_iff (language other : Language) {name : Text}
    (valid : isVariableName name = true) :
    language.dialect.declarationShape.finder.first? none (declarationLine other name) =
      some name ↔ language = other := by
  constructor
  · intro found
    have openerLetters : ∀ c ∈ other.dialect.declarationShape.opener, isWord c = true :=
      (worded other).letters
    have visible : ∀ c ∈ name, isBlank c = false := fun c member =>
      isBlank_of_isWord (isWord_of_isVariableName valid c member)
    have creationFree : '=' ∉ ' ' :: creation other := by
      cases other <;> decide
    obtain ⟨-, opens, created⟩ := DeclarationShape.first?_eq_some_of_line (worded language)
      openerLetters (isVariableName_ne_nil valid) visible
      (not_mem_of_isVariableName valid (by decide)) creationFree found
    clear found openerLetters visible creationFree
    revert opens created
    cases language <;> cases other <;> decide
  · rintro rfl
    exact first?_declarationLine language valid

theorem isBlank_of_mem_capitalize {name : Text} (visible : ∀ c ∈ name, isBlank c = false) :
    ∀ c ∈ capitalize name, isBlank c = false := by
  cases name with
  | nil => simp [capitalize]
  | cons d rest =>
      intro c member
      rcases List.mem_append.mp member with raised | later
      · exact isBlank_of_mem_upperChar (visible d List.mem_cons_self) raised
      · exact visible c (List.mem_cons_of_mem d later)

theorem length_lt_final (name : Text) : name.length < ("final" ++ capitalize name).length := by
  cases name with
  | nil => decide
  | cons c rest =>
      simp [capitalize]
      omega

theorem first?_finalLine_ne (language other : Language) {name : Text}
    (valid : isVariableName name = true) :
    language.dialect.declarationShape.finder.first? none (finalLine other name) ≠ some name := by
  intro found
  have openerLetters : ∀ c ∈ finalOpener other, isWord c = true := by
    apply List.all_eq_true.mp
    cases other <;> decide
  have visible : ∀ c ∈ ("final" : Text) ++ capitalize name, isBlank c = false := by
    have letters : ∀ c ∈ ("final" : Text), isWord c = true := List.all_eq_true.mp (by decide)
    rw [List.forall_mem_append]
    constructor
    · exact fun c member => isBlank_of_isWord (letters c member)
    · apply isBlank_of_mem_capitalize
      exact fun c member => isBlank_of_isWord (isWord_of_isVariableName valid c member)
  have nameFree : '=' ∉ name := not_mem_of_isVariableName valid (by decide)
  have finalFree : '=' ∉ ("final" : Text) ++ capitalize name := by
    rw [List.mem_append, not_or]
    exact ⟨by decide, not_mem_capitalize (by decide) (by decide) nameFree⟩
  have readingFree : '=' ∉ ' ' :: (name ++
      '.' :: (other.dialect.readMethod ++ other.dialect.statementEnd)) := by
    rw [List.mem_cons, List.mem_append, not_or, not_or]
    refine ⟨by decide, nameFree, ?_⟩
    cases other <;> decide
  rw [finalLine_eq] at found
  obtain ⟨same, -⟩ := DeclarationShape.first?_eq_some_of_line (worded language)
    openerLetters (by simp) visible finalFree readingFree found
  have longer := length_lt_final name
  rw [← same] at longer
  exact Nat.lt_irrefl _ longer

/-- The marks around a literal and those in front of which it is escaped are foreign to
all declarations. -/
theorem foreign (language : Language) {mark : Char} (special : mark = '\x22' ∨ mark = '\\') :
    language.dialect.declarationShape.Foreign mark := by
  rcases special with rfl | rfl <;> constructor <;> cases language <;> decide

theorem first?_escape (language : Language) (left text : Text) :
    language.dialect.declarationShape.finder.first? none (left ++ escape text) =
      language.dialect.declarationShape.finder.first? none (left ++ text) := by
  have some := (worded language).nonempty
  induction text generalizing left with
  | nil => rfl
  | cons c text induction =>
      rw [escape_cons]
      by_cases special : c = '\\' ∨ c = '\x22'
      · have backslash := foreign language (.inr rfl)
        have same := foreign language special.symm
        have later := induction []
        simp only [List.nil_append] at later
        have skipped := DeclarationShape.first?_append_mark same some none [] (escape text)
        rw [escapeChar_of_special special, List.cons_append, List.singleton_append,
          DeclarationShape.first?_append_mark backslash some,
          DeclarationShape.first?_append_mark same some]
        rw [List.nil_append] at skipped
        rw [skipped, later]
        rfl
      · rw [escapeChar_of_plain special, List.singleton_append, List.append_cons,
          List.append_cons left c text]
        exact induction (left ++ [c])

theorem first?_appendCall (language other : Language) {name : Text}
    (valid : isVariableName name = true) (line : Text) :
    language.dialect.declarationShape.finder.first? none
        (appendCall other.dialect name (escape line ++ " ")) =
      language.dialect.declarationShape.finder.first? none (line ++ " ") := by
  have some := (worded language).nonempty
  have quote := foreign language (.inl rfl)
  have headFree : '=' ∉ callHead other name := by
    apply not_mem_callHead valid (by decide)
    cases other <;> decide
  have endFree : '=' ∉ callEnd other := by
    cases other <;> decide
  have literal := first?_escape language [] (line ++ " ")
  simp only [List.nil_append] at literal
  rw [appendCall_eq, DeclarationShape.first?_append_mark quote some,
    DeclarationShape.first?_append_mark quote some,
    DeclarationShape.first?_of_no_equals headFree, DeclarationShape.first?_of_no_equals endFree,
    literal, Option.none_or, Option.or_none]

/-- The variable of a request is among the names that its code declares in a language
if that is the language of the request, or a fragment of the statement declares it. -/
theorem mem_declaredNames_render_iff {request : CodeRequest}
    (named : isVariableName request.variableName = true) (language : Language) :
    request.variableName ∈ declaredNames language request.render ↔
      language = request.language ∨
        ∃ line ∈ sqlLines request.sql,
          language.dialect.declarationShape.finder.first? none (line ++ " ") =
            some request.variableName := by
  have silent : ∀ {text : Text}, '=' ∉ text →
      language.dialect.declarationShape.finder.first? none text ≠ some request.variableName := by
    intro text absent found
    rw [DeclarationShape.first?_of_no_equals absent] at found
    cases found
  have comment : ¬∃ line ∈ (if request.addComments then
      [commentLine request.language.dialect] else []),
        language.dialect.declarationShape.finder.first? none line =
          some request.variableName := by
    have free : '=' ∉ commentLine request.language.dialect := by
      cases request.language <;> decide
    split <;> simp [silent free]
  have gap : ¬∃ line ∈ (if request.formatCode then [([] : Text)] else []),
      language.dialect.declarationShape.finder.first? none line =
        some request.variableName := by
    have free : '=' ∉ ([] : Text) := List.not_mem_nil
    split <;> simp [silent free]
  rw [declaredNames, List.mem_eraseDups, List.mem_filterMap, lines_render named, codeLines_eq]
  simp only [List.mem_append, or_and_right, exists_or, comment, gap, List.mem_map,
    exists_exists_and_eq_and, List.mem_singleton, exists_eq_left,
    first?_declarationLine_iff language request.language named,
    first?_appendCall language request.language named,
    first?_finalLine_ne language request.language named, silent List.not_mem_nil, or_false,
    false_or]

end CodeRequest

end SqlFanout.Builder
