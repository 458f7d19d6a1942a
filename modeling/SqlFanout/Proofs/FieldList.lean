import SqlFanout.Proofs.TopLevel

/-!
# Lists of fields

One walk over a whole clause tells which of its commas are at top level, and it is
back at top level behind each of them.  So a walk over a single piece sees the same
as the walk over the clause (`cutAtCommas_eq_iff`).  The fields of a clause, joined
again, are read as the same fields, and these are the only lists with that property
(`splitFields_join_iff`); and a clause consists of its fields, blanks and top-level
commas (`fields_of_clause`).
-/

namespace SqlFanout.Sql

open Text

theorem startsAtTop_startsComma (following : Text) (nesting : Nesting)
    (before : Option Char) (text : Text) :
    startsAtTop startsComma following nesting before text =
      startsAtTop startsComma [] nesting none text := by
  induction text generalizing following nesting before with
  | nil => rfl
  | cons c text induction =>
      rw [startsAtTop, startsAtTop, induction following, induction [] _ (some c)]
      rfl

/-- A text that shows no comma at top level when it is read from a state on. -/
def Uncut (nesting : Nesting) (text : Text) : Prop :=
  startsAtTop startsComma [] nesting none text = false

instance (nesting : Nesting) (text : Text) : Decidable (Uncut nesting text) :=
  inferInstanceAs (Decidable (_ = false))

theorem uncut_nil (nesting : Nesting) : Uncut nesting [] := rfl

theorem uncut_cons_iff {nesting : Nesting} {c : Char} {text : Text} :
    Uncut nesting (c :: text) ↔
      (c == ',' && nesting.isTop) = false ∧ Uncut (nesting.step c) text := by
  rw [Uncut, startsAtTop, Bool.or_eq_false_iff, startsAtTop_startsComma [], Uncut, Bool.and_comm]
  rfl

theorem uncut_append_iff {nesting : Nesting} {left right : Text} :
    Uncut nesting (left ++ right) ↔ Uncut nesting left ∧ Uncut (nesting.after left) right := by
  rw [Uncut, startsAtTop_append, Bool.or_eq_false_iff, startsAtTop_startsComma,
    startsAtTop_startsComma _ (nesting.after left)]
  rfl

theorem Uncut.trim {piece : Text} (uncut : Uncut .top piece) : Uncut .top (trim piece) := by
  obtain ⟨lead, trailing, split, blank, -⟩ := exists_trim piece
  rw [split, uncut_append_iff, Nesting.sane_top.after_of_isBlank blank, uncut_append_iff]
    at uncut
  exact uncut.2.1

theorem Nesting.after_trim (text : Text) :
    Nesting.top.after (trim text) = Nesting.top.after text := by
  obtain ⟨lead, trailing, split, leadBlank, blank⟩ := exists_trim text
  conv_rhs => rw [split, after_append, after_append, sane_top.after_of_isBlank leadBlank,
    (sane_top.after _).after_of_isBlank blank]

/-- A text that is read from a state on, cut at its commas at top level. -/
inductive Pieces : Nesting → Text → List Text → Prop where
  | last {nesting : Nesting} {piece : Text} :
      Uncut nesting piece → Pieces nesting piece [piece]
  | comma {nesting : Nesting} {piece rest : Text} {pieces : List Text} :
      Uncut nesting piece → nesting.after piece = .top → Pieces .top rest pieces →
      Pieces nesting (piece ++ ',' :: rest) (piece :: pieces)

theorem Pieces.prepend {nesting : Nesting} {lead text piece : Text} {pieces : List Text}
    (uncut : Uncut nesting lead) (cut : Pieces (nesting.after lead) text (piece :: pieces)) :
    Pieces nesting (lead ++ text) ((lead ++ piece) :: pieces) := by
  cases cut with
  | last later => exact .last (uncut_append_iff.mpr ⟨uncut, later⟩)
  | comma later top others =>
      have behind := (Nesting.after_append nesting lead piece).trans top
      rw [← List.append_assoc]
      exact .comma (uncut_append_iff.mpr ⟨uncut, later⟩) behind others

theorem pieces_cutAtCommas (nesting : Nesting) (text : Text) :
    Pieces nesting text (cutAtCommas nesting text) := by
  induction text generalizing nesting with
  | nil => exact .last (uncut_nil nesting)
  | cons c rest induction =>
      have later := induction (nesting.step c)
      rw [cutAtCommas]
      cases here : c == ',' && nesting.isTop with
      | true =>
          obtain ⟨comma, top⟩ := Bool.and_eq_true_iff.mp here
          obtain rfl := beq_iff_eq.mp comma
          obtain rfl := Nesting.isTop_iff.mp top
          exact .comma (uncut_nil .top) rfl later
      | false =>
          cases shape : cutAtCommas (nesting.step c) rest with
          | nil =>
              rw [shape] at later
              cases later
          | cons piece pieces =>
              rw [shape] at later
              exact Pieces.prepend (uncut_cons_iff.mpr ⟨here, uncut_nil _⟩) later

theorem cutAtCommas_ne_nil (nesting : Nesting) (text : Text) :
    cutAtCommas nesting text ≠ [] := by
  intro empty
  have cut := pieces_cutAtCommas nesting text
  rw [empty] at cut
  cases cut

theorem cutAtCommas_append {nesting : Nesting} {text : Text} (uncut : Uncut nesting text)
    (rest : Text) :
    cutAtCommas nesting (text ++ rest) =
      (cutAtCommas (nesting.after text) rest).modifyHead (text ++ ·) := by
  induction text generalizing nesting with
  | nil => cases shape : cutAtCommas nesting rest <;> simp [shape]
  | cons c text induction =>
      obtain ⟨here, later⟩ := uncut_cons_iff.mp uncut
      rw [List.cons_append, cutAtCommas, here, induction later, Nesting.after_cons]
      cases shape : cutAtCommas ((nesting.step c).after text) rest with
      | nil => exact absurd shape (cutAtCommas_ne_nil _ _)
      | cons piece pieces => rfl

theorem cutAtCommas_comma (rest : Text) :
    cutAtCommas .top (',' :: rest) = [] :: cutAtCommas .top rest := rfl

theorem Pieces.cutAtCommas_eq {nesting : Nesting} {text : Text} {pieces : List Text}
    (cut : Pieces nesting text pieces) : cutAtCommas nesting text = pieces := by
  induction cut with
  | last uncut => simpa [cutAtCommas] using cutAtCommas_append uncut []
  | comma uncut top later induction =>
      rw [cutAtCommas_append uncut, top, cutAtCommas_comma, induction]
      simp

theorem cutAtCommas_eq_iff {nesting : Nesting} {text : Text} {pieces : List Text} :
    cutAtCommas nesting text = pieces ↔ Pieces nesting text pieces := by
  constructor
  · rintro rfl
    exact pieces_cutAtCommas nesting text
  · exact Pieces.cutAtCommas_eq

/-- Texts that can stand in a list of fields: none has a blank at its ends or shows a
comma at top level, and each but the last leaves the scanner at top level. -/
structure Listed (parts : List Text) : Prop where
  tight : ∀ part ∈ parts, Tight part
  uncut : ∀ part ∈ parts, Uncut .top part
  balanced : ∀ part ∈ parts.dropLast, Nesting.top.after part = .top

namespace Listed

theorem nil : Listed [] := by
  constructor <;> simp

theorem singleton {part : Text} (tight : Tight part) (uncut : Uncut .top part) :
    Listed [part] := by
  constructor <;> simp [tight, uncut]

theorem cons {part : Text} {parts : List Text} (tight : Tight part) (uncut : Uncut .top part)
    (balanced : Nesting.top.after part = .top) (listed : Listed parts) :
    Listed (part :: parts) := by
  refine ⟨List.forall_mem_cons.mpr ⟨tight, listed.tight⟩,
    List.forall_mem_cons.mpr ⟨uncut, listed.uncut⟩, ?_⟩
  cases parts with
  | nil => simp
  | cons next parts => exact List.forall_mem_cons.mpr ⟨balanced, listed.balanced⟩

theorem tail {part : Text} {parts : List Text} (listed : Listed (part :: parts)) :
    Listed parts := by
  refine ⟨(List.forall_mem_cons.mp listed.tight).2,
    (List.forall_mem_cons.mp listed.uncut).2, ?_⟩
  cases parts with
  | nil => simp
  | cons next parts => exact (List.forall_mem_cons.mp listed.balanced).2

end Listed

/-- The trimmed pieces that are not blank. -/
def nonBlankPieces (pieces : List Text) : List Text :=
  (pieces.map trim).filter fun field => !field.isEmpty

theorem nonBlankPieces_cons (piece : Text) (pieces : List Text) :
    nonBlankPieces (piece :: pieces) =
      if trim piece = [] then nonBlankPieces pieces
      else trim piece :: nonBlankPieces pieces := by
  by_cases blank : trim piece = [] <;> simp [nonBlankPieces, blank]

theorem nonBlankPieces_eq_self {pieces : List Text} (tight : ∀ piece ∈ pieces, Tight piece) :
    nonBlankPieces pieces = pieces := by
  induction pieces with
  | nil => rfl
  | cons piece pieces induction =>
      obtain ⟨first, others⟩ := List.forall_mem_cons.mp tight
      rw [nonBlankPieces_cons, first.trim_eq, if_neg first.nonempty, induction others]

theorem Pieces.listed {nesting : Nesting} {clause : Text} {pieces : List Text}
    (cut : Pieces nesting clause pieces) (start : nesting = .top) :
    Listed (nonBlankPieces pieces) := by
  induction cut with
  | @last nesting piece uncut =>
      subst start
      rw [nonBlankPieces_cons]
      split
      next => exact .nil
      next present => exact .singleton (tight_trim_of_ne_nil present) uncut.trim
  | @comma nesting piece rest pieces uncut top later induction =>
      subst start
      rw [nonBlankPieces_cons]
      split
      next => exact induction rfl
      next present =>
        have balanced := (Nesting.after_trim piece).trans top
        exact (induction rfl).cons (tight_trim_of_ne_nil present) uncut.trim balanced

theorem listed_splitFields (clause : Text) : Listed (splitFields clause) :=
  (pieces_cutAtCommas .top clause).listed rfl

theorem pieces_join {part : Text} {parts : List Text} (listed : Listed (part :: parts)) :
    Pieces .top (join ", " (part :: parts)) (part :: parts.map (' ' :: ·)) := by
  have uncut := listed.uncut part List.mem_cons_self
  induction parts generalizing part with
  | nil => simpa [join] using Pieces.last uncut
  | cons next parts induction =>
      have shape : join ", " (part :: next :: parts) =
          part ++ ',' :: ([' '] ++ join ", " (next :: parts)) := by
        simp [join, List.intercalate_cons_cons]
      have later := induction listed.tail (listed.tail.uncut next List.mem_cons_self)
      have blank : Uncut .top [' '] := rfl
      rw [shape]
      exact .comma uncut (listed.balanced part List.mem_cons_self) (Pieces.prepend blank later)

theorem Listed.splitFields_join {parts : List Text} (listed : Listed parts) :
    splitFields (join ", " parts) = parts := by
  cases parts with
  | nil => rfl
  | cons part parts =>
      have spaced : (part :: parts.map (' ' :: ·)).map trim = (part :: parts).map trim := by
        simp only [List.map_cons, List.map_map]
        rfl
      have kept := nonBlankPieces_eq_self listed.tight
      rw [nonBlankPieces] at kept
      rw [splitFields, (pieces_join listed).cutAtCommas_eq, spaced, kept]

/-- The lists that are read back from their join are those that can be read at all. -/
theorem splitFields_join_iff {parts : List Text} :
    splitFields (join ", " parts) = parts ↔ Listed parts := by
  constructor
  · intro same
    rw [← same]
    exact listed_splitFields _
  · exact Listed.splitFields_join

/-- A text without its commas at top level. -/
def dropCommas (nesting : Nesting) (text : Text) : Text :=
  ((text.zip (nesting.mask text)).filter fun marked => !(marked.1 == ',' && marked.2)).map
    (·.1)

/-- A text without its blanks. -/
def dropBlanks (text : Text) : Text :=
  text.filter fun c => !isBlank c

theorem dropCommas_cons (nesting : Nesting) (c : Char) (text : Text) :
    dropCommas nesting (c :: text) =
      (if c == ',' && nesting.isTop then [] else [c]) ++ dropCommas (nesting.step c) text := by
  have same : (c == ',' && nesting.shows c) = (c == ',' && nesting.isTop) := by
    cases comma : c == ',' with
    | false => rfl
    | true =>
        obtain rfl := beq_iff_eq.mp comma
        obtain ⟨depth, quote⟩ := nesting
        cases quote <;> simp [Nesting.shows, Nesting.isTop, isQuote]
  rw [dropCommas, Nesting.mask, List.zip_cons_cons, List.filter_cons, same]
  cases c == ',' && nesting.isTop <;> rfl

theorem dropCommas_append (nesting : Nesting) (left right : Text) :
    dropCommas nesting (left ++ right) =
      dropCommas nesting left ++ dropCommas (nesting.after left) right := by
  induction left generalizing nesting with
  | nil => rfl
  | cons c left induction =>
      rw [List.cons_append, dropCommas_cons, dropCommas_cons, induction, List.append_assoc]
      rfl

theorem Uncut.dropCommas_eq {nesting : Nesting} {text : Text} (uncut : Uncut nesting text) :
    dropCommas nesting text = text := by
  induction text generalizing nesting with
  | nil => rfl
  | cons c text induction =>
      obtain ⟨here, later⟩ := uncut_cons_iff.mp uncut
      rw [dropCommas_cons, here, induction later]
      rfl

theorem Pieces.dropCommas_eq {nesting : Nesting} {text : Text} {pieces : List Text}
    (cut : Pieces nesting text pieces) : dropCommas nesting text = pieces.flatten := by
  induction cut with
  | last uncut => rw [uncut.dropCommas_eq, List.flatten_singleton]
  | comma uncut top later induction =>
      rw [dropCommas_append, uncut.dropCommas_eq, top, dropCommas_cons, List.flatten_cons,
        ← induction]
      rfl

theorem dropBlanks_append (left right : Text) :
    dropBlanks (left ++ right) = dropBlanks left ++ dropBlanks right :=
  List.filter_append left right

theorem dropBlanks_of_isBlank {blanks : Text} (blank : ∀ c ∈ blanks, isBlank c = true) :
    dropBlanks blanks = [] := by
  simpa [dropBlanks] using blank

theorem dropBlanks_trim (text : Text) : dropBlanks (trim text) = dropBlanks text := by
  obtain ⟨lead, trailing, split, leadBlank, blank⟩ := exists_trim text
  conv_rhs => rw [split, dropBlanks_append, dropBlanks_append, dropBlanks_of_isBlank leadBlank,
    dropBlanks_of_isBlank blank, List.append_nil, List.nil_append]

theorem dropBlanks_flatten (pieces : List Text) :
    dropBlanks pieces.flatten = (nonBlankPieces pieces).flatMap dropBlanks := by
  induction pieces with
  | nil => rfl
  | cons piece pieces induction =>
      rw [List.flatten_cons, dropBlanks_append, induction, nonBlankPieces_cons,
        ← dropBlanks_trim piece]
      split
      next blank => rw [blank]; rfl
      next => rw [List.flatMap_cons]

theorem dropBlanks_dropCommas (clause : Text) :
    dropBlanks (dropCommas .top clause) = (splitFields clause).flatMap dropBlanks := by
  rw [(pieces_cutAtCommas .top clause).dropCommas_eq, dropBlanks_flatten]
  rfl

/-- Whether or not its quotes and parentheses are closed: each field of a clause is
a list of one field, the fields joined again are the same list of fields, and but for
blanks and commas at top level the clause is made of its fields. -/
theorem fields_of_clause (clause : Text) :
    (∀ field ∈ splitFields clause,
      isBlankText field = false ∧ trim field = field ∧ splitFields field = [field]) ∧
    splitFields (join ", " (splitFields clause)) = splitFields clause ∧
    dropBlanks (dropCommas .top clause) = (splitFields clause).flatMap dropBlanks := by
  have listed := listed_splitFields clause
  refine ⟨?_, listed.splitFields_join, dropBlanks_dropCommas clause⟩
  intro field member
  have tight := listed.tight field member
  have alone := (Listed.singleton tight (listed.uncut field member)).splitFields_join
  exact ⟨tight.not_blank, tight.trim_eq, by simpa [join] using alone⟩

/-- A closing parenthesis too many, pieces without a field, commas in parentheses and
in quotes, and a quote that is not closed. -/
theorem fields_of_clause_unclosed :
    splitFields " a) ,, (b, ',(' ) x,\t, 'c, d " = ["a)", "(b, ',(' ) x", "'c, d"] ∧
    ("'c, d" : Text) ∈ splitFields " a) ,, (b, ',(' ) x,\t, 'c, d " ∧
    splitFields "'c, d" = ["'c, d"] ∧
    splitFields "a), (b, ',(' ) x, 'c, d" = splitFields " a) ,, (b, ',(' ) x,\t, 'c, d " ∧
    dropBlanks (dropCommas .top " a) ,, (b, ',(' ) x,\t, 'c, d ") = "a)(b,',(')x'c,d" := by
  have read : splitFields " a) ,, (b, ',(' ) x,\t, 'c, d " =
      ["a)", "(b, ',(' ) x", "'c, d"] := by
    decide
  have member : ("'c, d" : Text) ∈ splitFields " a) ,, (b, ',(' ) x,\t, 'c, d " := by
    rw [read]
    decide
  obtain ⟨alone, again, kept⟩ := fields_of_clause " a) ,, (b, ',(' ) x,\t, 'c, d "
  rw [read] at again kept
  rw [← read] at again
  exact ⟨read, member, (alone _ member).2.2, again, kept⟩

end SqlFanout.Sql
