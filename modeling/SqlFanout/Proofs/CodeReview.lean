import SqlFanout.Builder.Review
import SqlFanout.Proofs.CodeWords

/-!
# Reviewing written code

The code of an accepted request has all that a review looks for.  What a review objects
to is searched for in the whole text, however, so that a statement and a name can hold
it as well: in C# a call in small letters, in Kotlin a semicolon or the end of a word
that reads `new` (`review_written`).
-/

namespace SqlFanout.Builder

open Text

theorem isValid_review_iff {language : Language} {code : Text} :
    (review language code).isValid = true ↔ complaints language code = [] := by
  rw [review]
  split
  next none => exact iff_of_true rfl none
  next some => exact iff_of_false Bool.false_ne_true some

theorem complainIf_eq_nil_iff {condition : Bool} {complaint : Text} :
    complainIf condition complaint = [] ↔ ¬condition = true := by
  cases condition <;> simp [complainIf]

theorem missingSemicolon_of_last {line : Text} (first : ∀ c ∈ line.head?, isBlank c = false)
    (last : line.getLast? = some ';') : missingSemicolon line = [] := by
  have tight : Tight line := by
    refine ⟨?_, first, ?_⟩
    · rintro rfl
      cases last
    · intro c final
      rw [last] at final
      cases final
      decide
  rw [missingSemicolon, tight.trim_eq]
  simp only [last, bne_self_eq_false, Bool.and_false]
  split <;> rfl

namespace CodeRequest

theorem missingSemicolon_codeLines {request : CodeRequest} (java : request.language = .java)
    (named : isVariableName request.variableName = true) :
    ∀ line ∈ request.codeLines, missingSemicolon line = [] := by
  have ends : ∀ {front ending : Text}, ending.getLast? = some ';' →
      (front ++ ending).getLast? = some ';' := by
    intro front ending last
    simp [List.getLast?_append, last]
  intro line member
  rw [codeLines_eq, java] at member
  simp only [List.mem_append, List.mem_map, List.mem_singleton] at member
  rcases member with ((((comment | declaration) | gap) | call) | gap) | final
  · have same : line = commentLine Language.java.dialect := by
      cases shown : request.addComments <;> simp_all
    rw [same]
    decide
  · apply missingSemicolon_of_last
    · intro c first
      rw [declaration] at first
      cases first
      decide
    · rw [declaration]
      exact ends (ends (ends (ends rfl)))
  · have empty : line = [] := by
      cases spaced : request.formatCode <;> simp_all
    rw [empty]
    rfl
  · obtain ⟨source, -, rfl⟩ := call
    apply missingSemicolon_of_last
    · intro c first
      obtain ⟨d, rest, shape⟩ := List.exists_cons_of_ne_nil (isVariableName_ne_nil named)
      have inName : c ∈ request.variableName := by
        rw [shape] at first ⊢
        cases first
        exact List.mem_cons_self
      exact isBlank_of_isWord (isWord_of_isVariableName named c inName)
    · exact ends rfl
  · have empty : line = [] := by
      cases spaced : request.formatCode <;> simp_all
    rw [empty]
    rfl
  · apply missingSemicolon_of_last
    · intro c first
      rw [final] at first
      cases first
      decide
    · rw [final]
      exact ends rfl

variable {request : CodeRequest}

/-- A name that ends in `new` with its first letter raised ends in it before. -/
theorem suffix_of_suffix_capitalize {name : Text}
    (ends : ("new" : Text) <:+ "final" ++ capitalize name) : ("new" : Text) <:+ name := by
  have foreign : ∀ {lead : Text}, lead.getLast? = some 'l' →
      ∀ c ∈ lead.getLast?, c ∉ ("new" : Text) := by
    intro lead last c member
    rw [last] at member
    cases member
    decide
  cases name with
  | nil => exact (suffix_append_of_last (foreign rfl) _).mp ends
  | cons c rest =>
      have small : ∀ letter ∈ ("new" : Text), letter ∉ upperChar c := by
        intro letter member
        have checked : ("new" : Text).all (fun letter =>
            isAscii letter && isAsciiLetter letter && !isCapital letter) = true := by
          decide
        obtain ⟨⟨ascii, isLetter⟩, noCapital⟩ := by
          simpa only [Bool.and_eq_true, Bool.not_eq_true'] using
            List.all_eq_true.mp checked letter member
        exact not_mem_upperChar_of_small ascii isLetter noCapital
      rw [capitalize, ← List.append_assoc] at ends
      have kept : ("new" : Text) <:+ rest := by
        apply (suffix_append_of_last _ rest).mp ends
        intro d last inside
        by_cases none : upperChar c = []
        · rw [none, List.append_nil] at last
          exact foreign rfl d last inside
        · rw [List.getLast?_append_of_ne_nil _ none] at last
          exact small d inside (List.mem_of_mem_getLast? last)
      exact kept.trans (List.suffix_cons c rest)

theorem unframed_smallCall (csharp : request.language = .csharp)
    (named : isVariableName request.variableName = true) :
    ¬∃ part ∈ request.framing, (".append(" : Text) <:+: part := by
  have noDot : '.' ∉ request.variableName := not_mem_of_isVariableName named (by decide)
  have noName : ¬(".append(" : Text) <:+: request.variableName :=
    not_infix_of_mark (by decide) noDot
  have comment : ¬(".append(" : Text) <:+: commentLine Language.csharp.dialect := by decide
  have declaration :
      ¬(".append(" : Text) <:+: declarationLine .csharp request.variableName := by
    rw [infix_declarationLine_iff (by decide), not_or, not_or]
    exact ⟨by decide, noName, by decide⟩
  have call : ¬(".append(" : Text) <:+: callHead .csharp request.variableName := by
    rw [callHead, show (".append(" : Text) = [] ++ '.' :: "append(" from rfl,
      infix_around_mark_iff (by decide) noDot]
    rintro (⟨-, behind⟩ | inside)
    · revert behind
      decide
    · revert inside
      decide
  have closing : ¬(".append(" : Text) <:+: callEnd .csharp := by decide
  have final : ¬(".append(" : Text) <:+: finalLine .csharp request.variableName := by
    rw [finalLine, show (".append(" : Text) = [] ++ '.' :: "append(" from rfl,
      infix_around_mark_iff (by decide) (dot_not_mem_assignment .csharp noDot)]
    rintro (⟨-, behind⟩ | inside)
    · revert behind
      decide
    · revert inside
      decide
  rw [exists_framing_iff, csharp]
  simp only [comment, declaration, call, closing, final, and_false, or_false, not_false_eq_true]

theorem unframed_capitalType (csharp : request.language = .csharp)
    (named : isVariableName request.variableName = true) :
    ¬∃ part ∈ request.framing, ("String final" : Text) <:+: part := by
  have comment : ¬("String final" : Text) <:+: commentLine Language.csharp.dialect := by decide
  have spaced : ("String final" : Text) = "String" ++ ' ' :: "final" := rfl
  have declaration :
      ¬("String final" : Text) <:+: declarationLine .csharp request.variableName := by
    rw [spaced, spaced_infix_declarationLine_iff (by decide) _ _ named]
    rintro (⟨opener, -⟩ | ⟨-, behind⟩ | inside)
    · revert opener
      decide
    · revert behind
      decide
    · revert inside
      decide
  have call : ¬("String final" : Text) <:+: callHead .csharp request.variableName := by
    have space : ' ' ∈ ("String final" : Text) := by decide
    exact not_infix_of_mark space (not_mem_callHead named (by decide) (by decide))
  have closing : ¬("String final" : Text) <:+: callEnd .csharp := by decide
  have final : ¬("String final" : Text) <:+: finalLine .csharp request.variableName := by
    rw [spaced, spaced_infix_finalLine_iff (by decide) _ _ named]
    rintro (⟨opener, -⟩ | ⟨-, behind⟩ | ⟨equals, -⟩)
    · revert opener
      decide
    · simp at behind
    · revert equals
      decide
  rw [exists_framing_iff, csharp]
  simp only [comment, declaration, call, closing, final, and_false, or_false, not_false_eq_true]

theorem unframed_semicolon (kotlin : request.language = .kotlin)
    (named : isVariableName request.variableName = true) :
    ¬∃ part ∈ request.framing, (";" : Text) <:+: part := by
  have semicolon : ';' ∈ (";" : Text) := by decide
  have comment : ¬(";" : Text) <:+: commentLine Language.kotlin.dialect := by decide
  have pieces : ¬∃ piece ∈ fixedPieces .kotlin, (";" : Text) <:+: piece := by decide
  rw [exists_framing_iff_of_mark named semicolon (by decide) (by decide) (by decide)
    (by decide), kotlin]
  simp only [comment, pieces, and_false, or_false, not_false_eq_true]

/-- In Kotlin code only the name of the variable may end in `new`. -/
theorem framed_new_iff (kotlin : request.language = .kotlin)
    (named : isVariableName request.variableName = true) :
    (∃ part ∈ request.framing, ("new " : Text) <:+: part) ↔
      ("new" : Text) <:+ request.variableName := by
  have spaced : ("new " : Text) = "new" ++ ' ' :: [] := rfl
  have comment : ¬("new " : Text) <:+: commentLine Language.kotlin.dialect := by decide
  have declaration : ("new " : Text) <:+: declarationLine .kotlin request.variableName ↔
      ("new" : Text) <:+ request.variableName := by
    have opener : ¬("new" : Text) <:+ Language.kotlin.dialect.declarationShape.opener := by
      decide
    have creating : ¬("new" : Text) ++ ' ' :: [] <:+: "= " ++ creation .kotlin := by decide
    rw [spaced, spaced_infix_declarationLine_iff (by decide) _ _ named]
    simp only [opener, creating, List.nil_prefix, and_true, false_or, or_false]
  have call : ¬("new " : Text) <:+: callHead .kotlin request.variableName := by
    have space : ' ' ∈ ("new " : Text) := by decide
    exact not_infix_of_mark space (not_mem_callHead named (by decide) (by decide))
  have closing : ¬("new " : Text) <:+: callEnd .kotlin := by decide
  have final : ("new " : Text) <:+: finalLine .kotlin request.variableName →
      ("new" : Text) <:+ request.variableName := by
    have opener : ¬("new" : Text) <:+ finalOpener .kotlin := by decide
    have equals : ¬("new" : Text) <:+ "=" := by decide
    rw [spaced, spaced_infix_finalLine_iff (by decide) _ _ named]
    simp only [opener, equals, List.nil_prefix, and_true, false_or, or_false]
    exact suffix_of_suffix_capitalize
  rw [exists_framing_iff, kotlin]
  simp only [comment, declaration, call, closing, and_false, false_or]
  exact or_iff_left_of_imp final

/-- What a review complains about in the code of a request. -/
def flaws (request : CodeRequest) : List Text :=
  match request.language with
  | .csharp =>
      complainIf (occursIn ".append(" request.sql) "C#에서는 append 대신 Append를 사용해야 합니다"
        ++ complainIf (occursIn "String final" request.sql)
          "C#에서는 String 대신 string을 사용해야 합니다"
  | .kotlin =>
      complainIf (("new" : Text).isSuffixOf request.variableName
          || (sqlLines request.sql).any fun line => occursIn "new " (line ++ " "))
          "Kotlin에서는 new 키워드를 사용하지 않습니다"
        ++ complainIf (occursIn ";" request.sql) "Kotlin에서는 보통 세미콜론을 사용하지 않습니다"
  | _ => []

theorem occursIn_opener (named : isVariableName request.variableName = true)
    (present : isBlankText request.sql = false) :
    occursIn (request.language.dialect.declarationShape.opener ++ ' ' :: []) request.render =
      true := by
  have bare : Bare (request.language.dialect.declarationShape.opener ++ ' ' :: []) := by
    cases request.language <;> decide
  have noSpace : ' ' ∉ request.language.dialect.declarationShape.opener := by
    cases request.language <;> decide
  apply occursIn_render_of_declaration named present bare
  rw [spaced_infix_declarationLine_iff noSpace _ _ named]
  exact .inl ⟨List.suffix_rfl, List.nil_prefix⟩

theorem occursIn_new (named : isVariableName request.variableName = true)
    (present : isBlankText request.sql = false)
    (created : ("new " : Text) <:+: "= " ++ creation request.language) :
    occursIn "new " request.render = true := by
  apply occursIn_render_of_declaration named present (by decide)
  rw [show ("new " : Text) = "new" ++ ' ' :: [] from rfl,
    spaced_infix_declarationLine_iff (by decide) _ _ named]
  exact .inr (.inr created)

theorem complaints_java (java : request.language = .java)
    (named : isVariableName request.variableName = true)
    (present : isBlankText request.sql = false) : complaints .java request.render = [] := by
  have builder : occursIn "StringBuffer" request.render = true := by
    apply occursIn_render_of_declaration named present (by decide)
    rw [infix_declarationLine_iff (by decide), java]
    exact .inl (by decide)
  have creator : occursIn "new " request.render = true := by
    apply occursIn_new named present
    rw [java]
    decide
  have ended : (lines request.render).flatMap missingSemicolon = [] := by
    rw [List.flatMap_eq_nil_iff, lines_render named]
    intro line member
    rcases List.mem_append.mp member with written | rest
    · exact missingSemicolon_codeLines java named line written
    · rw [List.mem_singleton.mp rest]
      rfl
  simp only [complaints, builder, creator, ended]
  rfl

theorem complaints_csharp (csharp : request.language = .csharp)
    (named : isVariableName request.variableName = true)
    (present : isBlankText request.sql = false) :
    complaints .csharp request.render = request.flaws := by
  have builder : occursIn "StringBuilder" request.render = true := by
    apply occursIn_render_of_declaration named present (by decide)
    rw [infix_declarationLine_iff (by decide), csharp]
    exact .inl (by decide)
  have call : occursIn ".append(" request.render = occursIn ".append(" request.sql :=
    occursIn_render_of_unframed named present (by decide) (by decide)
      (unframed_smallCall csharp named)
  have final : occursIn "String final" request.render = occursIn "String final" request.sql :=
    occursIn_render_of_unframed named present (by decide) (by decide)
      (unframed_capitalType csharp named)
  simp only [complaints, flaws, csharp, builder, call, final]
  rfl

theorem complaints_kotlin (kotlin : request.language = .kotlin)
    (named : isVariableName request.variableName = true)
    (present : isBlankText request.sql = false) :
    complaints .kotlin request.render = request.flaws := by
  have opening : occursIn "val " request.render = true := by
    have opened := occursIn_opener named present
    rw [kotlin] at opened
    exact opened
  have creator : occursIn "new " request.render =
      (("new" : Text).isSuffixOf request.variableName
        || (sqlLines request.sql).any fun line => occursIn "new " (line ++ " ")) := by
    rw [Bool.eq_iff_iff, occursIn_iff, infix_render_iff named present (by decide),
      framed_new_iff kotlin named]
    simp only [Bool.or_eq_true, List.isSuffixOf_iff_suffix, List.any_eq_true, occursIn_iff]
  have semicolon : occursIn ";" request.render = occursIn ";" request.sql :=
    occursIn_render_of_unframed named present (by decide) (by decide)
      (unframed_semicolon kotlin named)
  simp only [complaints, flaws, kotlin, opening, creator, semicolon]
  rfl

theorem complaints_scala (scala : request.language = .scala)
    (named : isVariableName request.variableName = true)
    (present : isBlankText request.sql = false) : complaints .scala request.render = [] := by
  have opening : occursIn "val " request.render = true := by
    have opened := occursIn_opener named present
    rw [scala] at opened
    exact opened
  have creator : occursIn "new " request.render = true := by
    apply occursIn_new named present
    rw [scala]
    decide
  simp only [complaints, opening, creator]
  rfl

theorem complaints_groovy (groovy : request.language = .groovy)
    (named : isVariableName request.variableName = true)
    (present : isBlankText request.sql = false) : complaints .groovy request.render = [] := by
  have opening : occursIn "def " request.render = true := by
    have opened := occursIn_opener named present
    rw [groovy] at opened
    exact opened
  simp only [complaints, opening]
  rfl

theorem complaints_render (named : isVariableName request.variableName = true)
    (present : isBlankText request.sql = false) :
    complaints request.language request.render = request.flaws := by
  cases language : request.language with
  | java => rw [complaints_java language named present, flaws, language]
  | csharp => exact complaints_csharp language named present
  | kotlin => exact complaints_kotlin language named present
  | scala => rw [complaints_scala language named present, flaws, language]
  | groovy => rw [complaints_groovy language named present, flaws, language]

/-- A statement and a name that keep the words of the other languages away. -/
structure Inoffensive (request : CodeRequest) : Prop where
  smallCall : request.language = .csharp → ¬(".append(" : Text) <:+: request.sql
  capitalType : request.language = .csharp → ¬("String final" : Text) <:+: request.sql
  newName : request.language = .kotlin → ¬("new" : Text) <:+ request.variableName
  newWord : request.language = .kotlin →
    ∀ line ∈ sqlLines request.sql, ¬("new " : Text) <:+: line ++ " "
  semicolon : request.language = .kotlin → ';' ∉ request.sql

theorem flaws_csharp_eq_nil_iff (csharp : request.language = .csharp) :
    request.flaws = [] ↔
      ¬(".append(" : Text) <:+: request.sql ∧ ¬("String final" : Text) <:+: request.sql := by
  simp only [flaws, csharp, List.append_eq_nil_iff, complainIf_eq_nil_iff, occursIn_iff]

theorem flaws_kotlin_eq_nil_iff (kotlin : request.language = .kotlin) :
    request.flaws = [] ↔
      (¬("new" : Text) <:+ request.variableName ∧
        ∀ line ∈ sqlLines request.sql, ¬("new " : Text) <:+: line ++ " ") ∧
      ';' ∉ request.sql := by
  have semicolon : (";" : Text) <:+: request.sql ↔ ';' ∈ request.sql :=
    List.singleton_infix_iff ';' request.sql
  simp only [flaws, kotlin, List.append_eq_nil_iff, complainIf_eq_nil_iff, Bool.or_eq_true,
    List.isSuffixOf_iff_suffix, List.any_eq_true, occursIn_iff, semicolon, not_or, not_exists,
    not_and]

theorem flaws_eq_nil_iff : request.flaws = [] ↔ request.Inoffensive := by
  constructor
  · intro none
    constructor <;> intro language
    · exact ((flaws_csharp_eq_nil_iff language).mp none).1
    · exact ((flaws_csharp_eq_nil_iff language).mp none).2
    · exact ((flaws_kotlin_eq_nil_iff language).mp none).1.1
    · exact ((flaws_kotlin_eq_nil_iff language).mp none).1.2
    · exact ((flaws_kotlin_eq_nil_iff language).mp none).2
  · intro inoffensive
    cases language : request.language with
    | csharp =>
        apply (flaws_csharp_eq_nil_iff language).mpr
        exact ⟨inoffensive.smallCall language, inoffensive.capitalType language⟩
    | kotlin =>
        apply (flaws_kotlin_eq_nil_iff language).mpr
        exact ⟨⟨inoffensive.newName language, inoffensive.newWord language⟩,
          inoffensive.semicolon language⟩
    | java => rw [flaws, language]
    | scala => rw [flaws, language]
    | groovy => rw [flaws, language]

end CodeRequest

/-- The code of an accepted request passes the review of its language exactly if the
statement and the name are inoffensive there; in Java, Scala and Groovy it always does.
The complaints of the review are those about the statement and the name. -/
theorem review_written {settings : Settings} {request : CodeRequest}
    (accepted : (request.check settings).isValid = true) :
    let written := (request.generate settings).value
    written.success = true ∧
      complaints request.language written.code = request.flaws ∧
      ((review request.language written.code).isValid = true ↔ request.Inoffensive) ∧
      (request.language ≠ .csharp → request.language ≠ .kotlin →
        (review request.language written.code).isValid = true) := by
  obtain ⟨named, present, -⟩ := CodeRequest.check_isValid_iff.mp accepted
  have found := CodeRequest.complaints_render named present
  have passes : (review request.language request.render).isValid = true ↔
      request.Inoffensive := by
    rw [isValid_review_iff, found, CodeRequest.flaws_eq_nil_iff]
  rw [CodeRequest.value_generate accepted]
  refine ⟨rfl, found, passes, ?_⟩
  intro noCsharp noKotlin
  apply passes.mpr
  constructor
  · exact fun csharp => absurd csharp noCsharp
  · exact fun csharp => absurd csharp noCsharp
  · exact fun kotlin => absurd kotlin noKotlin
  · exact fun kotlin => absurd kotlin noKotlin
  · exact fun kotlin => absurd kotlin noKotlin

/-- Words that only look like the ones that are searched for. -/
def inoffensiveRequest : CodeRequest :=
  { variableName := "newest", language := .kotlin
    sql := "SELECT new_price, \"new\"\nFROM renewals -- .append(String final" }

theorem review_written_inoffensive :
    (inoffensiveRequest.check {}).isValid = true ∧ inoffensiveRequest.Inoffensive ∧
      (review .kotlin (inoffensiveRequest.generate {}).value.code).isValid = true := by
  have accepted : (inoffensiveRequest.check {}).isValid = true := by decide
  have inoffensive : inoffensiveRequest.Inoffensive :=
    CodeRequest.flaws_eq_nil_iff.mp (by decide)
  exact ⟨accepted, inoffensive, (review_written accepted).2.2.1.mpr inoffensive⟩

/-- A terminated statement and a name in Kotlin, and a literal in C#, make code that its
own review refuses. -/
theorem review_refuses_written :
    (CodeRequest.check {} { language := .kotlin, sql := "SELECT 1 FROM t;" }).isValid = true ∧
    (review .kotlin (CodeRequest.generate {}
      { language := .kotlin, sql := "SELECT 1 FROM t;" }).value.code).isValid = false ∧
    (CodeRequest.check {}
      { variableName := "renew", language := .kotlin, sql := "SELECT 1" }).isValid = true ∧
    (review .kotlin (CodeRequest.generate {}
      { variableName := "renew", language := .kotlin, sql := "SELECT 1" }).value.code).isValid =
        false ∧
    (CodeRequest.check {} { language := .csharp, sql := "SELECT '.append('" }).isValid = true ∧
    (review .csharp (CodeRequest.generate {}
      { language := .csharp, sql := "SELECT '.append('" }).value.code).isValid = false := by
  decide

end SqlFanout.Builder
