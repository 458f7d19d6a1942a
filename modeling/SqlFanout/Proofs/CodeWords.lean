import SqlFanout.Proofs.CodeRoundTrip
import SqlFanout.Proofs.WordSearch

/-!
# Words in code

Code is searched for words as a whole, so that a word is met in the comment, in the
declaration, in what stands around a literal, in the last line, or in the statement
that the literals hold (`infix_render_iff`).  In the fixed parts only the name of the
variable is open, which consists of word characters.
-/

namespace SqlFanout.Builder

open Text

/-- A word that neither a line break nor an escape gets into. -/
structure Bare (word : Text) : Prop where
  nonempty : word ≠ []
  lineFeed : '\n' ∉ word
  quote : '\x22' ∉ word
  backslash : '\\' ∉ word

theorem bare_iff {word : Text} :
    Bare word ↔ word ≠ [] ∧ '\n' ∉ word ∧ '\x22' ∉ word ∧ '\\' ∉ word := by
  constructor
  · intro bare
    exact ⟨bare.nonempty, bare.lineFeed, bare.quote, bare.backslash⟩
  · rintro ⟨nonempty, lineFeed, quote, backslash⟩
    exact ⟨nonempty, lineFeed, quote, backslash⟩

instance (word : Text) : Decidable (Bare word) :=
  decidable_of_iff _ bare_iff.symm

theorem prefix_escape_iff {word : Text} (quote : '\x22' ∉ word) (backslash : '\\' ∉ word)
    (text : Text) : word <+: escape text ↔ word <+: text := by
  induction text generalizing word with
  | nil => rfl
  | cons c text induction =>
      cases word with
      | nil => simp
      | cons d word =>
          rw [escape_cons, List.cons_prefix_cons]
          by_cases special : c = '\\' ∨ c = '\x22'
          · have noSlash : d ≠ '\\' := fun same => backslash (same ▸ List.mem_cons_self)
            have noQuote : d ≠ '\x22' := fun same => quote (same ▸ List.mem_cons_self)
            rw [escapeChar_of_special special]
            rcases special with rfl | rfl <;> simp [List.cons_prefix_cons, noSlash, noQuote]
          · rw [escapeChar_of_plain special, List.singleton_append, List.cons_prefix_cons,
              induction (fun member => quote (List.mem_cons_of_mem d member))
                (fun member => backslash (List.mem_cons_of_mem d member))]

/-- Escaping a text neither adds nor removes an occurrence of a bare word. -/
theorem infix_escape_iff {word : Text} (bare : Bare word) (text : Text) :
    word <:+: escape text ↔ word <:+: text := by
  induction text with
  | nil => rfl
  | cons c text induction =>
      by_cases special : c = '\\' ∨ c = '\x22'
      · have foreign : ∀ d ∈ ['\\', c], word.head? ≠ some d := by
          intro d member first
          have inside := List.mem_of_mem_head? first
          rcases List.mem_cons.mp member with rfl | member
          · exact bare.backslash inside
          · obtain rfl := List.mem_singleton.mp member
            rcases special with rfl | rfl
            · exact bare.backslash inside
            · exact bare.quote inside
        have plain : ∀ d ∈ [c], word.head? ≠ some d := fun d member =>
          foreign d (List.mem_cons_of_mem '\\' member)
        calc word <:+: escape (c :: text)
          _ ↔ word <:+: ['\\', c] ++ escape text := by
            rw [escape_cons, escapeChar_of_special special]
          _ ↔ word <:+: escape text := infix_append_of_head bare.nonempty foreign _
          _ ↔ word <:+: text := induction
          _ ↔ word <:+: [c] ++ text := (infix_append_of_head bare.nonempty plain _).symm
      · calc word <:+: escape (c :: text)
          _ ↔ word <+: escape (c :: text) ∨ word <:+: escape text := by
            rw [escape_cons, escapeChar_of_plain special, List.singleton_append,
              List.infix_cons_iff]
          _ ↔ word <+: c :: text ∨ word <:+: text := by
            rw [prefix_escape_iff bare.quote bare.backslash, induction]
          _ ↔ word <:+: c :: text := List.infix_cons_iff.symm

namespace CodeRequest

theorem infix_sql_iff {word : Text} (bare : Bare word) (tight : Tight word) (sql : Text) :
    word <:+: sql ↔ ∃ line ∈ sqlLines sql, word <:+: line ++ " " := by
  have spaced : ∀ line : Text, word <:+: line ++ " " ↔ word <:+: line := by
    apply infix_append_of_last bare.nonempty
    intro c member last
    have blank : isBlank c = true := by
      rw [List.mem_singleton.mp member]
      decide
    rw [tight.last c last] at blank
    cases blank
  have kept : ∀ line : Text, (!line.isEmpty) = true ∧ word <:+: line ↔ word <:+: line := by
    intro line
    refine and_iff_right_of_imp ?_
    intro inside
    cases line with
    | nil => exact absurd (List.infix_nil.mp inside) bare.nonempty
    | cons c line => rfl
  rw [infix_iff_exists_line bare.lineFeed, sqlLines]
  simp only [List.mem_filter, List.mem_map, spaced, and_assoc, kept, exists_exists_and_eq_and,
    infix_trim_iff tight]

/-- What a call says in front of its literal. -/
def callHead (language : Language) (name : Text) : Text :=
  name ++ '.' :: (language.dialect.appendMethod ++ "(")

/-- What a call says behind its literal. -/
def callEnd (language : Language) : Text :=
  ")" ++ language.dialect.statementEnd

/-- The parts of the code that do not come from the statement. -/
def framing (request : CodeRequest) : List Text :=
  (if request.addComments then [commentLine request.language.dialect] else []) ++
    [declarationLine request.language request.variableName,
      callHead request.language request.variableName, callEnd request.language,
      finalLine request.language request.variableName]

theorem appendCall_eq (language : Language) (name line : Text) :
    appendCall language.dialect name (escape line ++ " ") =
      callHead language name ++ '\x22' :: (escape (line ++ " ") ++ '\x22' :: callEnd language) := by
  simp [appendCall, callHead, callEnd, escape, escapeChar]

theorem infix_appendCall_iff {word : Text} (bare : Bare word) (language : Language)
    (name line : Text) :
    word <:+: appendCall language.dialect name (escape line ++ " ") ↔
      word <:+: callHead language name ∨ word <:+: line ++ " " ∨ word <:+: callEnd language := by
  rw [appendCall_eq, infix_append_mark_iff bare.quote, infix_append_mark_iff bare.quote,
    infix_escape_iff bare]

/-- A bare word is in the code if it is in a fixed part or in a line of the statement. -/
theorem infix_render_iff {request : CodeRequest}
    (named : isVariableName request.variableName = true)
    (present : isBlankText request.sql = false) {word : Text} (bare : Bare word) :
    word <:+: request.render ↔
      (∃ part ∈ request.framing, word <:+: part) ∨
        ∃ line ∈ sqlLines request.sql, word <:+: line ++ " " := by
  have empty : ¬word <:+: [] := fun inside => bare.nonempty (List.infix_nil.mp inside)
  have gap : ¬∃ part ∈ (if request.formatCode then [([] : Text)] else []), word <:+: part := by
    split <;> simp [empty]
  obtain ⟨some, someMember⟩ := List.exists_mem_of_ne_nil _ (sqlLines_ne_nil present)
  have calls : (∃ part ∈ (sqlLines request.sql).map fun line =>
        appendCall request.language.dialect request.variableName (escape line ++ " "),
        word <:+: part) ↔
      word <:+: callHead request.language request.variableName ∨
        (∃ line ∈ sqlLines request.sql, word <:+: line ++ " ") ∨
        word <:+: callEnd request.language := by
    simp only [List.mem_map, exists_exists_and_eq_and, infix_appendCall_iff bare]
    constructor
    · rintro ⟨line, member, inHead | inLine | inEnd⟩
      · exact .inl inHead
      · exact .inr (.inl ⟨line, member, inLine⟩)
      · exact .inr (.inr inEnd)
    · rintro (inHead | ⟨line, member, inLine⟩ | inEnd)
      · exact ⟨some, someMember, .inl inHead⟩
      · exact ⟨line, member, .inr (.inl inLine)⟩
      · exact ⟨some, someMember, .inr (.inr inEnd)⟩
  rw [infix_iff_exists_line bare.lineFeed, lines_render named, codeLines_eq, framing]
  simp only [List.mem_append, or_and_right, exists_or, gap, calls, List.mem_cons, List.not_mem_nil,
    exists_eq_left, empty, or_false]
  simp only [or_assoc, or_comm, or_left_comm]

theorem occursIn_render_of_framed {request : CodeRequest}
    (named : isVariableName request.variableName = true)
    (present : isBlankText request.sql = false) {word : Text} (bare : Bare word)
    (framed : ∃ part ∈ request.framing, word <:+: part) : occursIn word request.render = true := by
  rw [occursIn_iff, infix_render_iff named present bare]
  exact .inl framed

theorem occursIn_render_of_unframed {request : CodeRequest}
    (named : isVariableName request.variableName = true)
    (present : isBlankText request.sql = false) {word : Text} (bare : Bare word)
    (tight : Tight word) (unframed : ¬∃ part ∈ request.framing, word <:+: part) :
    occursIn word request.render = occursIn word request.sql := by
  rw [Bool.eq_iff_iff, occursIn_iff, occursIn_iff, infix_render_iff named present bare,
    infix_sql_iff bare tight, or_iff_right unframed]

theorem exists_framing_iff {request : CodeRequest} {word : Text} :
    (∃ part ∈ request.framing, word <:+: part) ↔
      (request.addComments = true ∧ word <:+: commentLine request.language.dialect) ∨
        word <:+: declarationLine request.language request.variableName ∨
        word <:+: callHead request.language request.variableName ∨
        word <:+: callEnd request.language ∨
        word <:+: finalLine request.language request.variableName := by
  have comment : (∃ part ∈ (if request.addComments then
        [commentLine request.language.dialect] else []), word <:+: part) ↔
      request.addComments = true ∧ word <:+: commentLine request.language.dialect := by
    split <;> simp_all
  simp only [framing, List.mem_append, or_and_right, exists_or, comment, List.mem_cons,
    List.not_mem_nil, or_false, exists_eq_left]

theorem occursIn_render_of_declaration {request : CodeRequest}
    (named : isVariableName request.variableName = true)
    (present : isBlankText request.sql = false) {word : Text} (bare : Bare word)
    (declared : word <:+: declarationLine request.language request.variableName) :
    occursIn word request.render = true := by
  apply occursIn_render_of_framed named present bare
  exact exists_framing_iff.mpr (.inr (.inl declared))

theorem not_infix_of_mark {mark : Char} {word text : Text} (member : mark ∈ word)
    (absent : mark ∉ text) : ¬word <:+: text :=
  fun inside => absent (inside.subset member)

theorem not_mem_callHead {mark : Char} {name : Text} (named : isVariableName name = true)
    (noWord : isWord mark = false) {language : Language}
    (fixed : mark ∉ '.' :: (language.dialect.appendMethod ++ "(")) :
    mark ∉ callHead language name := by
  rw [callHead, List.mem_append, not_or]
  exact ⟨not_mem_of_isVariableName named noWord, fixed⟩

theorem infix_callHead_iff {word : Text} (noDot : '.' ∉ word) (language : Language)
    (name : Text) :
    word <:+: callHead language name ↔
      word <:+: name ∨ word <:+: language.dialect.appendMethod ++ "(" :=
  infix_append_mark_iff noDot _ _

theorem infix_declarationLine_iff {word : Text} (noSpace : ' ' ∉ word) (language : Language)
    (name : Text) :
    word <:+: declarationLine language name ↔
      word <:+: language.dialect.declarationShape.opener ∨ word <:+: name ∨
        word <:+: "= " ++ creation language := by
  change word <:+: language.dialect.declarationShape.opener ++
    ' ' :: (name ++ ' ' :: ("= " ++ creation language)) ↔ _
  rw [infix_append_mark_iff noSpace, infix_append_mark_iff noSpace]

theorem finalLine_eq (language : Language) (name : Text) :
    finalLine language name = finalOpener language ++ ' ' :: (("final" ++ capitalize name) ++
      ' ' :: ("=" ++ ' ' :: (name ++
        '.' :: (language.dialect.readMethod ++ language.dialect.statementEnd)))) := by
  simp [finalLine]

theorem infix_finalLine_iff {word : Text} (noSpace : ' ' ∉ word) (noDot : '.' ∉ word)
    (language : Language) (name : Text) :
    word <:+: finalLine language name ↔
      word <:+: finalOpener language ∨ word <:+: "final" ++ capitalize name ∨ word <:+: "=" ∨
        word <:+: name ∨ word <:+: language.dialect.readMethod ++ language.dialect.statementEnd := by
  rw [finalLine_eq, infix_append_mark_iff noSpace, infix_append_mark_iff noSpace,
    infix_append_mark_iff noSpace, infix_append_mark_iff noDot]

/-- The pieces of the fixed parts between spaces, dots and names. -/
def fixedPieces (language : Language) : List Text :=
  [language.dialect.declarationShape.opener, "= " ++ creation language,
    language.dialect.appendMethod ++ "(", callEnd language, finalOpener language, "=",
    language.dialect.readMethod ++ language.dialect.statementEnd]

/-- A word without spaces and dots is in a fixed part if it is in one of the pieces, in
the comment, or in a name. -/
theorem exists_framing_iff_pieces {request : CodeRequest} {word : Text} (noSpace : ' ' ∉ word)
    (noDot : '.' ∉ word) :
    (∃ part ∈ request.framing, word <:+: part) ↔
      (request.addComments = true ∧ word <:+: commentLine request.language.dialect) ∨
        (∃ piece ∈ fixedPieces request.language, word <:+: piece) ∨
        word <:+: request.variableName ∨ word <:+: "final" ++ capitalize request.variableName := by
  rw [exists_framing_iff, infix_declarationLine_iff noSpace, infix_callHead_iff noDot,
    infix_finalLine_iff noSpace noDot]
  simp only [fixedPieces, List.mem_cons, List.not_mem_nil, or_false, exists_eq_or_imp,
    exists_eq_left]
  tauto

theorem exists_framing_iff_of_mark {request : CodeRequest} {word : Text} {mark : Char}
    (named : isVariableName request.variableName = true) (member : mark ∈ word)
    (ascii : isAscii mark = true) (noWord : isWord mark = false) (noSpace : ' ' ∉ word)
    (noDot : '.' ∉ word) :
    (∃ part ∈ request.framing, word <:+: part) ↔
      (request.addComments = true ∧ word <:+: commentLine request.language.dialect) ∨
        ∃ piece ∈ fixedPieces request.language, word <:+: piece := by
  have noLetter : isAsciiLetter mark = false := by
    cases letter : isAsciiLetter mark with
    | false => rfl
    | true => simp [isWord, isAlphanumeric, ascii, letter] at noWord
  have absent : mark ∉ request.variableName := not_mem_of_isVariableName named noWord
  have noFinal : mark ∉ ("final" : Text) ++ capitalize request.variableName := by
    rw [List.mem_append, not_or]
    refine ⟨?_, not_mem_capitalize ascii noLetter absent⟩
    intro inside
    have letters : ∀ c ∈ ("final" : Text), isWord c = true := List.all_eq_true.mp (by decide)
    rw [letters mark inside] at noWord
    cases noWord
  rw [exists_framing_iff_pieces noSpace noDot]
  simp only [not_infix_of_mark member absent, not_infix_of_mark member noFinal, or_false]

/-- A word around a space meets a space of the declaration. -/
theorem spaced_infix_declarationLine_iff {stem : Text} (noSpace : ' ' ∉ stem) (ending : Text)
    (language : Language) {name : Text} (named : isVariableName name = true) :
    stem ++ ' ' :: ending <:+: declarationLine language name ↔
      (stem <:+ language.dialect.declarationShape.opener ∧
          ending <+: name ++ ' ' :: ("= " ++ creation language)) ∨
        (stem <:+ name ∧ ending <+: "= " ++ creation language) ∨
        stem ++ ' ' :: ending <:+: "= " ++ creation language := by
  have opener : ' ' ∉ language.dialect.declarationShape.opener := by
    cases language <;> decide
  have noName : ' ' ∉ name := not_mem_of_isVariableName named (by decide)
  change stem ++ ' ' :: ending <:+: language.dialect.declarationShape.opener ++
    ' ' :: (name ++ ' ' :: ("= " ++ creation language)) ↔ _
  rw [infix_around_mark_iff noSpace opener, infix_around_mark_iff noSpace noName]

theorem spaced_infix_finalLine_iff {stem : Text} (noSpace : ' ' ∉ stem) (ending : Text)
    (language : Language) {name : Text} (named : isVariableName name = true) :
    stem ++ ' ' :: ending <:+: finalLine language name ↔
      (stem <:+ finalOpener language ∧
          ending <+: ("final" ++ capitalize name) ++ ' ' :: ("=" ++ ' ' :: (name ++
            '.' :: (language.dialect.readMethod ++ language.dialect.statementEnd)))) ∨
        (stem <:+ "final" ++ capitalize name ∧
          ending <+: "=" ++ ' ' :: (name ++
            '.' :: (language.dialect.readMethod ++ language.dialect.statementEnd))) ∨
        (stem <:+ "=" ∧ ending <+: name ++
          '.' :: (language.dialect.readMethod ++ language.dialect.statementEnd)) := by
  have opener : ' ' ∉ finalOpener language := by
    cases language <;> decide
  have noName : ' ' ∉ name := not_mem_of_isVariableName named (by decide)
  have noFinal : ' ' ∉ ("final" : Text) ++ capitalize name := by
    rw [List.mem_append, not_or]
    exact ⟨by decide, not_mem_capitalize (by decide) (by decide) noName⟩
  have reading : ' ' ∉ name ++
      '.' :: (language.dialect.readMethod ++ language.dialect.statementEnd) := by
    rw [List.mem_append, not_or]
    refine ⟨noName, ?_⟩
    cases language <;> decide
  have behind : ¬stem ++ ' ' :: ending <:+: name ++
      '.' :: (language.dialect.readMethod ++ language.dialect.statementEnd) :=
    not_infix_of_mark (by simp) reading
  rw [finalLine_eq, infix_around_mark_iff noSpace opener,
    infix_around_mark_iff noSpace noFinal, infix_around_mark_iff noSpace (by decide)]
  simp only [behind, or_false]

end CodeRequest

end SqlFanout.Builder
