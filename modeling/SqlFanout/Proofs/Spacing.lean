import SqlFanout.Proofs.Lines
import SqlFanout.Proofs.Scanning
import SqlFanout.Sql.Layout

/-!
# Spacing

Tidying moves blanks and nothing else.  Whether a space stands in a gap afterwards is
decided by the characters on both sides of it, and by the blanks that were in it only
if both are parts of words.  So every pass is a rule for gaps, passes behind each
other are a single rule (`respace_respace`), and the rule of all of them (`tidyRule`)
looks at nothing that a text loses when its idle blanks are dropped
(`tidy_canonical`).
-/

namespace SqlFanout.Sql

open Text

/-- Decides whether a space stands in a gap, from the characters to the left and to
the right of it, if there are any, and from whether it has blanks. -/
abbrev GapRule := Option Char → Option Char → Bool → Bool

/-- One rule, and another one for the gaps that it leaves. -/
def GapRule.andThen (first second : GapRule) : GapRule :=
  fun left right gap => second left right (first left right gap)

/-- Leaves a space wherever there are blanks. -/
def keepRule : GapRule :=
  fun _ _ gap => gap

def spaceIf (spaced : Bool) : Text :=
  if spaced then [' '] else []

theorem spaceIf_append {first second : Bool} (single : (first && second) = false) :
    spaceIf first ++ spaceIf second = spaceIf (first || second) := by
  cases first with
  | false => rfl
  | true =>
      have none : second = false := single
      rw [none]
      rfl

/-- Lays the rest of a text out by a rule.  The last character that is no blank stands
to the left, and `gap` tells whether blanks have been met behind it. -/
def respaceFrom (rule : GapRule) (left : Option Char) (gap : Bool) : Text → Text
  | [] => spaceIf (rule left none gap)
  | c :: rest =>
      if isBlank c then respaceFrom rule left true rest
      else spaceIf (rule left (some c) gap) ++ c :: respaceFrom rule (some c) false rest

def respace (rule : GapRule) (sql : Text) : Text :=
  respaceFrom rule none false sql

theorem isBlank_space : isBlank ' ' = true := by
  decide

theorem respaceFrom_blank {c : Char} (blank : isBlank c = true) (rule : GapRule)
    (left : Option Char) (gap : Bool) (rest : Text) :
    respaceFrom rule left gap (c :: rest) = respaceFrom rule left true rest := by
  simp [respaceFrom, blank]

theorem respaceFrom_visible {c : Char} (visible : isBlank c = false) (rule : GapRule)
    (left : Option Char) (gap : Bool) (rest : Text) :
    respaceFrom rule left gap (c :: rest) =
      spaceIf (rule left (some c) gap) ++ c :: respaceFrom rule (some c) false rest := by
  simp [respaceFrom, visible]

theorem respaceFrom_spaceIf {c : Char} (visible : isBlank c = false) (rule : GapRule)
    (left : Option Char) (spaced : Bool) (rest : Text) :
    respaceFrom rule left false (spaceIf spaced ++ c :: rest) =
      spaceIf (rule left (some c) spaced) ++ c :: respaceFrom rule (some c) false rest := by
  cases spaced with
  | false => exact respaceFrom_visible visible rule left false rest
  | true =>
      have met := respaceFrom_blank isBlank_space rule left false (c :: rest)
      exact met.trans (respaceFrom_visible visible rule left true rest)

theorem respaceFrom_respaceFrom (first second : GapRule) (left : Option Char) (gap : Bool)
    (text : Text) :
    respaceFrom second left false (respaceFrom first left gap text) =
      respaceFrom (first.andThen second) left gap text := by
  induction text generalizing left gap with
  | nil =>
      rw [respaceFrom, respaceFrom, GapRule.andThen]
      cases first left none gap with
      | false => rfl
      | true => exact respaceFrom_blank isBlank_space second left false []
  | cons c rest induction =>
      cases blank : isBlank c with
      | true =>
          rw [respaceFrom_blank blank, respaceFrom_blank blank]
          exact induction left true
      | false =>
          rw [respaceFrom_visible blank, respaceFrom_visible blank,
            respaceFrom_spaceIf blank, induction (some c) false]
          rfl

/-- Rules behind each other are one rule. -/
theorem respace_respace (first second : GapRule) (sql : Text) :
    respace second (respace first sql) = respace (first.andThen second) sql :=
  respaceFrom_respaceFrom first second none false sql

/-- Only what a rule says about the gaps of the text matters; to the left of all but
the first one there is a character. -/
theorem respaceFrom_congr {rule other : GapRule} {left : Option Char}
    (here : ∀ right gap, rule left right gap = other left right gap)
    (later : ∀ c right gap, rule (some c) right gap = other (some c) right gap)
    (gap : Bool) (text : Text) :
    respaceFrom rule left gap text = respaceFrom other left gap text := by
  induction text generalizing left gap with
  | nil => simp only [respaceFrom, here]
  | cons c rest induction =>
      have behind := induction (later c) false
      have beyond := induction here true
      simp only [respaceFrom, here, behind, beyond]

theorem filter_respaceFrom (rule : GapRule) (left : Option Char) (gap : Bool) (text : Text) :
    (respaceFrom rule left gap text).filter (fun c => !isBlank c) =
      text.filter (fun c => !isBlank c) := by
  have space : ∀ spaced, (spaceIf spaced).filter (fun c => !isBlank c) = [] := by
    intro spaced
    cases spaced with
    | false => rfl
    | true => simp [spaceIf, isBlank_space]
  induction text generalizing left gap with
  | nil => exact space _
  | cons c rest induction =>
      cases blank : isBlank c with
      | true => simp [respaceFrom, blank, induction]
      | false => simp [respaceFrom, blank, induction, space]

/-- Blanks are replaced run by run.  While a run is being read, its space has been
written already and the rest of it is passed over. -/
theorem substituteFrom_blanksFinder (before left : Option Char) (text : Text) :
    blanksFinder.substituteFrom (fun _ => " ") before text =
        respaceFrom keepRule left false text ∧
      ' ' :: blanksFinder.substituteFrom (fun _ => " ") before (trimLeft text) =
        respaceFrom keepRule left true text := by
  induction text generalizing before left with
  | nil => exact ⟨rfl, rfl⟩
  | cons c rest induction =>
      cases blank : isBlank c with
      | true =>
          have behind : trimLeft (c :: rest) = trimLeft rest := by
            simp [trimLeft, blank]
          have found : blanksFinder before (c :: (rest.takeWhile isBlank ++ trimLeft rest)) =
              some ((), trimLeft rest) := by
            simp [blanksFinder, afterBlanks?, trimLeft, blank]
          have step := Finder.substituteFrom_found (fun _ => (" " : Text))
            (rest.takeWhile isBlank) (trimLeft rest) found
          rw [trimLeft, List.takeWhile_append_dropWhile, ← trimLeft] at step
          rw [respaceFrom_blank blank, respaceFrom_blank blank, behind]
          exact ⟨step.trans (induction _ left).2, (induction before left).2⟩
      | false =>
          have silent : blanksFinder before (c :: rest) = none := by
            simp [blanksFinder, afterBlanks?, blank]
          have behind : trimLeft (c :: rest) = c :: rest := by
            simp [trimLeft, blank]
          have step := Finder.substituteFrom_plain (fun _ => (" " : Text)) silent
          rw [respaceFrom_visible blank, respaceFrom_visible blank, behind, step,
            (induction (some c) (some c)).1]
          exact ⟨rfl, rfl⟩

/-- The rule of the pass for a mark: a space before the mark or none, and one behind it
or none, whatever blanks are there. -/
def markRule (mark : Char) (spaceBefore spaceBehind : Bool) : GapRule :=
  fun left right gap =>
    if left = some mark then spaceBehind || (spaceBefore && right == some mark)
    else if right = some mark then spaceBefore
    else gap

/-- A mark with the space that is put before it and the one that is put behind it. -/
def spacedMark (mark : Char) (spaceBefore spaceBehind : Bool) : Text :=
  spaceIf spaceBefore ++ mark :: spaceIf spaceBehind

/-- The pass for a mark, on what stands behind a character. -/
def spaceMarkFrom (mark : Char) (spaceBefore spaceBehind : Bool) (before : Option Char)
    (text : Text) : Text :=
  (markFinder mark).substituteFrom (fun _ => spacedMark mark spaceBefore spaceBehind) before text

theorem trimLeft_spaceIf {c : Char} (visible : isBlank c = false) (gap : Bool) (rest : Text) :
    trimLeft (spaceIf gap ++ c :: rest) = c :: rest := by
  cases gap <;> simp [spaceIf, trimLeft, isBlank_space, visible]

theorem markFinder_spaceIf (mark : Char) {c : Char} (visible : isBlank c = false)
    (before : Option Char) (gap : Bool) (rest : Text) :
    markFinder mark before (spaceIf gap ++ c :: rest) =
      if c = mark then some ((), trimLeft rest) else none := by
  simp [markFinder, trimLeft_spaceIf visible]

section Mark

variable {mark : Char} {spaceBefore spaceBehind : Bool}

theorem spaceMarkFrom_spaceIf (before : Option Char) (gap : Bool) :
    spaceMarkFrom mark spaceBefore spaceBehind before (spaceIf gap) = spaceIf gap := by
  cases gap with
  | false => rfl
  | true =>
      have silent : markFinder mark before [' '] = none := by
        simp [markFinder, trimLeft, isBlank_space]
      exact Finder.substituteFrom_plain _ silent

theorem spaceMarkFrom_mark (visible : isBlank mark = false) (before : Option Char)
    (gap : Bool) (rest : Text) :
    ∃ behind,
      spaceMarkFrom mark spaceBefore spaceBehind before (spaceIf gap ++ mark :: rest) =
        spacedMark mark spaceBefore spaceBehind ++
          spaceMarkFrom mark spaceBefore spaceBehind behind (trimLeft rest) := by
  have found := markFinder_spaceIf mark visible before gap rest
  rw [if_pos rfl] at found
  have split : spaceIf gap ++ mark :: rest =
      (spaceIf gap ++ mark :: rest.takeWhile isBlank) ++ trimLeft rest := by
    rw [List.append_assoc, List.cons_append, trimLeft, List.takeWhile_append_dropWhile]
  rw [split] at found ⊢
  exact ⟨_, Finder.substituteFrom_part _ (by simp) found⟩

theorem spaceMarkFrom_other {c : Char} (visible : isBlank c = false) (different : c ≠ mark)
    (before : Option Char) (gap : Bool) (rest : Text) :
    spaceMarkFrom mark spaceBefore spaceBehind before (spaceIf gap ++ c :: rest) =
      spaceIf gap ++ c :: spaceMarkFrom mark spaceBefore spaceBehind (some c) rest := by
  have silent : ∀ before gap, markFinder mark before (spaceIf gap ++ c :: rest) = none := by
    intro before gap
    rw [markFinder_spaceIf mark visible, if_neg different]
  have here : ∀ before, spaceMarkFrom mark spaceBefore spaceBehind before (c :: rest) =
      c :: spaceMarkFrom mark spaceBefore spaceBehind (some c) rest := by
    intro before
    exact Finder.substituteFrom_plain _ (silent before false)
  cases gap with
  | false => exact here before
  | true =>
      have space := Finder.substituteFrom_plain
        (fun _ => spacedMark mark spaceBefore spaceBehind) (silent before true)
      exact space.trans (congrArg (' ' :: ·) (here (some ' ')))

/-- The pass for a mark follows its rule.  Behind a mark the space that belongs there has
been written already, and the blanks that stood there are passed over. -/
theorem spaceMarkFrom_respaceFrom (visible : isBlank mark = false)
    (single : (spaceBehind && spaceBefore) = false) (rule : GapRule)
    (before left : Option Char) (gap : Bool) (text : Text) :
    (left ≠ some mark →
      spaceMarkFrom mark spaceBefore spaceBehind before (respaceFrom rule left gap text) =
        respaceFrom (rule.andThen (markRule mark spaceBefore spaceBehind)) left gap text) ∧
    (left = some mark →
      spaceIf spaceBehind ++ spaceMarkFrom mark spaceBefore spaceBehind before
          (trimLeft (respaceFrom rule left gap text)) =
        respaceFrom (rule.andThen (markRule mark spaceBefore spaceBehind)) left gap text) := by
  induction text generalizing before left gap with
  | nil =>
      constructor
      · intro elsewhere
        simp [respaceFrom, GapRule.andThen, markRule, elsewhere, spaceMarkFrom_spaceIf]
      · intro behind
        have gone : ∀ spaced, trimLeft (spaceIf spaced) = [] := by
          intro spaced
          cases spaced <;> rfl
        have nothing : spaceMarkFrom mark spaceBefore spaceBehind before [] = [] := rfl
        simp [respaceFrom, GapRule.andThen, markRule, behind, gone, nothing]
  | cons c rest induction =>
      cases blank : isBlank c with
      | true =>
          simp only [respaceFrom_blank blank]
          exact induction before left true
      | false =>
          simp only [respaceFrom_visible blank, trimLeft_spaceIf blank]
          by_cases same : c = mark
          · subst same
            have later := fun before => (induction before (some c) false).2 rfl
            constructor
            · intro elsewhere
              obtain ⟨next, taken⟩ := spaceMarkFrom_mark blank before (rule left (some c) gap)
                (respaceFrom rule (some c) false rest)
              rw [taken, ← later next]
              simp [spacedMark, GapRule.andThen, markRule, elsewhere]
            · intro doubled
              obtain ⟨next, taken⟩ : ∃ next,
                  spaceMarkFrom c spaceBefore spaceBehind before
                      (c :: respaceFrom rule (some c) false rest) = _ :=
                spaceMarkFrom_mark blank before false _
              rw [taken, ← later next]
              simp [spacedMark, GapRule.andThen, markRule, doubled, ← spaceIf_append single]
          · have later := fun before => (induction before (some c) false).1 (by simpa using same)
            constructor
            · intro elsewhere
              rw [spaceMarkFrom_other blank same, later]
              simp [GapRule.andThen, markRule, elsewhere, same]
            · intro behind
              have kept : spaceMarkFrom mark spaceBefore spaceBehind before
                  (c :: respaceFrom rule (some c) false rest) = _ :=
                spaceMarkFrom_other blank same before false _
              rw [kept, later]
              simp [GapRule.andThen, markRule, behind, same, spaceIf]

theorem spaceMark_respace (visible : isBlank mark = false)
    (single : (spaceBehind && spaceBefore) = false) (rule : GapRule) (sql : Text) :
    spaceMark mark (spacedMark mark spaceBefore spaceBehind) (respace rule sql) =
      respace (rule.andThen (markRule mark spaceBefore spaceBehind)) sql := by
  apply (spaceMarkFrom_respaceFrom visible single rule none none false sql).1
  simp

end Mark

/-- Leaves no space before the first character. -/
def leftRule : GapRule :=
  fun left _ gap => left.isSome && gap

/-- Leaves no space behind the last character. -/
def rightRule : GapRule :=
  fun _ right gap => right.isSome && gap

theorem trimLeft_respaceFrom (rule : GapRule) (gap : Bool) (text : Text) :
    trimLeft (respaceFrom rule none gap text) =
      respaceFrom (rule.andThen leftRule) none gap text := by
  induction text generalizing gap with
  | nil =>
      rw [respaceFrom]
      cases rule none none gap <;> rfl
  | cons c rest induction =>
      cases blank : isBlank c with
      | true =>
          rw [respaceFrom_blank blank, respaceFrom_blank blank]
          exact induction true
      | false =>
          rw [respaceFrom_visible blank, respaceFrom_visible blank, trimLeft_spaceIf blank]
          have later : respaceFrom rule (some c) false rest =
              respaceFrom (rule.andThen leftRule) (some c) false rest := by
            apply respaceFrom_congr
            · intro right gap
              simp [GapRule.andThen, leftRule]
            · intro d right gap
              simp [GapRule.andThen, leftRule]
          rw [later]
          rfl

theorem trimRight_cons {c : Char} (visible : isBlank c = false) (gap : Bool) (rest : Text) :
    trimRight (spaceIf gap ++ c :: rest) = spaceIf gap ++ c :: trimRight rest := by
  simp only [trimRight, dropTrailing, List.reverse_append, List.reverse_cons, List.append_assoc,
    List.dropWhile_append]
  split
  next gone => simp [visible, List.isEmpty_iff.mp gone]
  next => simp

theorem trimRight_respaceFrom (rule : GapRule) (left : Option Char) (gap : Bool) (text : Text) :
    trimRight (respaceFrom rule left gap text) =
      respaceFrom (rule.andThen rightRule) left gap text := by
  induction text generalizing left gap with
  | nil =>
      rw [respaceFrom]
      cases rule left none gap <;> rfl
  | cons c rest induction =>
      cases blank : isBlank c with
      | true =>
          rw [respaceFrom_blank blank, respaceFrom_blank blank]
          exact induction left true
      | false =>
          rw [respaceFrom_visible blank, respaceFrom_visible blank, trimRight_cons blank,
            induction (some c) false]
          rfl

theorem trim_respace (rule : GapRule) (sql : Text) :
    trim (respace rule sql) = respace ((rule.andThen leftRule).andThen rightRule) sql := by
  rw [trim, respace, trimLeft_respaceFrom]
  exact trimRight_respaceFrom (rule.andThen leftRule) none false sql

/-- No space at the ends; one behind a closing parenthesis and none before it; one before
an opening parenthesis and none behind it; one behind a comma and none before it.  If two
of these meet, the closing parenthesis decides, then the opening one, and of two of the
same kind the one that wants a space.  Between other characters the blanks decide. -/
def tidyRule : GapRule
  | some left, some right, gap =>
      if left = ')' then true
      else if right = ')' then false
      else if right = '(' then true
      else if left = '(' then false
      else if left = ',' then true
      else if right = ',' then false
      else gap
  | _, _, _ => false

/-- The rules of the passes, one behind the other, are the rule above. -/
theorem passes_eq_tidyRule :
    (((((keepRule.andThen (markRule ',' false true)).andThen (markRule '(' true false)).andThen
      (markRule ')' false true)).andThen leftRule).andThen rightRule) = tidyRule := by
  funext left right gap
  cases left with
  | none => simp [GapRule.andThen, leftRule, rightRule, tidyRule]
  | some left =>
      cases right with
      | none => simp [GapRule.andThen, leftRule, rightRule, tidyRule]
      | some right =>
          simp only [GapRule.andThen, leftRule, rightRule, markRule, keepRule, tidyRule,
            Option.some.injEq, Option.isSome_some, Bool.true_and]
          grind

theorem tidy_eq_respace (sql : Text) : tidy sql = respace tidyRule sql := by
  have single : blanksFinder.substitute (fun _ => " ") sql = respace keepRule sql :=
    (substituteFrom_blanksFinder none none sql).1
  have comma : ∀ rule, spaceMark ',' ", " (respace rule sql) =
      respace (rule.andThen (markRule ',' false true)) sql := by
    intro rule
    exact @spaceMark_respace ',' false true (by decide) rfl rule sql
  have opening : ∀ rule, spaceMark '(' " (" (respace rule sql) =
      respace (rule.andThen (markRule '(' true false)) sql := by
    intro rule
    exact @spaceMark_respace '(' true false (by decide) rfl rule sql
  have closing : ∀ rule, spaceMark ')' ") " (respace rule sql) =
      respace (rule.andThen (markRule ')' false true)) sql := by
    intro rule
    exact @spaceMark_respace ')' false true (by decide) rfl rule sql
  rw [tidy, single, comma, opening, closing, trim_respace, passes_eq_tidyRule]

/-- The text with every run of blanks collapsed into one space. -/
def collapse : Text → Text
  | [] => []
  | c :: rest =>
      if !isBlank c then c :: collapse rest
      else if rest.head?.any isBlank then collapse rest
      else ' ' :: collapse rest

/-- An end of the text, a comma or a parenthesis. -/
def isEdge : Option Char → Bool
  | none => true
  | some c => c == ',' || c == '(' || c == ')'

/-- Deletes the blanks that stand at the ends or next to a comma or a parenthesis, given
the character before the text. -/
def dropIdle (before : Option Char) : Text → Text
  | [] => []
  | c :: rest =>
      if isBlank c && (isEdge before || isEdge rest.head?) then dropIdle (some c) rest
      else c :: dropIdle (some c) rest

/-- What the layout of a statement does not change: the text with runs of blanks
collapsed and idle blanks deleted. -/
def bare (sql : Text) : Text :=
  dropIdle none (collapse sql)

/-- Leaves a space where there are blanks that are not idle. -/
def bareRule : GapRule :=
  fun left right gap => gap && !isEdge left && !isEdge right

theorem respaceFrom_keepRule (left : Option Char) (text : Text) :
    respaceFrom keepRule left false text = collapse text ∧
      respaceFrom keepRule left true text =
        if text.head?.any isBlank then collapse text else ' ' :: collapse text := by
  induction text generalizing left with
  | nil => exact ⟨rfl, rfl⟩
  | cons c rest induction =>
      cases blank : isBlank c with
      | true =>
          rw [respaceFrom_blank blank, respaceFrom_blank blank, (induction left).2]
          simp [collapse, blank]
      | false =>
          rw [respaceFrom_visible blank, respaceFrom_visible blank, (induction (some c)).1]
          simp [collapse, blank, keepRule, spaceIf]

theorem dropIdle_visible {c : Char} (visible : isBlank c = false) (before : Option Char)
    (rest : Text) : dropIdle before (c :: rest) = c :: dropIdle (some c) rest := by
  simp [dropIdle, visible]

theorem dropIdle_respaceFrom (left : Option Char) (gap : Bool) (text : Text) :
    dropIdle left (respaceFrom keepRule left gap text) = respaceFrom bareRule left gap text := by
  induction text generalizing left gap with
  | nil =>
      cases gap with
      | false => rfl
      | true => simp [respaceFrom, keepRule, bareRule, spaceIf, dropIdle, isBlank_space, isEdge]
  | cons c rest induction =>
      cases blank : isBlank c with
      | true =>
          rw [respaceFrom_blank blank, respaceFrom_blank blank]
          exact induction left true
      | false =>
          rw [respaceFrom_visible blank, respaceFrom_visible blank, ← induction]
          cases gap with
          | false => exact dropIdle_visible blank left _
          | true =>
              change dropIdle left (' ' :: c :: respaceFrom keepRule (some c) false rest) = _
              rw [dropIdle, dropIdle_visible blank, List.head?_cons]
              cases edge : isEdge left || isEdge (some c) <;>
                simp [isBlank_space, bareRule, ← Bool.not_or, edge, spaceIf]

theorem bare_eq_respace (sql : Text) : bare sql = respace bareRule sql := by
  rw [bare, ← (respaceFrom_keepRule none sql).1]
  exact dropIdle_respaceFrom none false sql

/-- The layout of a gap does not depend on idle blanks, and has none but its own. -/
theorem tidyRule_of_isEdge {left right : Option Char}
    (edge : (isEdge left || isEdge right) = true) (gap : Bool) :
    tidyRule left right gap = tidyRule left right false := by
  cases left with
  | none => rfl
  | some left =>
      cases right with
      | none => rfl
      | some right =>
          simp only [isEdge, Bool.or_eq_true, beq_iff_eq] at edge
          simp only [tidyRule]
          grind

theorem tidyRule_of_not_isEdge {left right : Option Char}
    (inner : (isEdge left || isEdge right) = false) (gap : Bool) :
    tidyRule left right gap = gap := by
  cases left with
  | none => cases inner
  | some left =>
      cases right with
      | none => simp [isEdge] at inner
      | some right =>
          simp only [isEdge, Bool.or_eq_false_iff, beq_eq_false_iff_ne] at inner
          simp [tidyRule, inner]

theorem bareRule_of_not_isEdge {left right : Option Char}
    (inner : (isEdge left || isEdge right) = false) (gap : Bool) :
    bareRule left right gap = gap := by
  simp [bareRule, ← Bool.not_or, Bool.and_assoc, inner]

/-- In front of tidying, a rule that keeps all blanks but idle ones does not matter. -/
theorem andThen_tidyRule {rule : GapRule}
    (keeps : ∀ {left right}, (isEdge left || isEdge right) = false →
      ∀ gap, rule left right gap = gap) : rule.andThen tidyRule = tidyRule := by
  funext left right gap
  cases edge : isEdge left || isEdge right with
  | true => exact (tidyRule_of_isEdge edge _).trans (tidyRule_of_isEdge edge gap).symm
  | false => rw [GapRule.andThen, keeps edge]

theorem tidyRule_andThen_bareRule : tidyRule.andThen bareRule = bareRule := by
  funext left right gap
  cases edge : isEdge left || isEdge right with
  | true => simp [GapRule.andThen, bareRule, ← Bool.not_or, Bool.and_assoc, edge]
  | false => rw [GapRule.andThen, tidyRule_of_not_isEdge edge]

theorem bare_tidy (sql : Text) : bare (tidy sql) = bare sql := by
  rw [bare_eq_respace, tidy_eq_respace, respace_respace, tidyRule_andThen_bareRule,
    bare_eq_respace]

theorem tidy_bare (sql : Text) : tidy (bare sql) = tidy sql := by
  rw [tidy_eq_respace, bare_eq_respace, respace_respace, andThen_tidyRule bareRule_of_not_isEdge,
    tidy_eq_respace]

/-- Tidying a second time changes nothing, no character but blanks is changed, added or
moved, and two statements are laid out alike exactly if they are the same once runs of
blanks are collapsed and the blanks at the ends and next to commas and parentheses are
deleted. -/
theorem tidy_canonical (sql other : Text) :
    tidy (tidy sql) = tidy sql ∧
      (tidy sql).filter (fun c => !isBlank c) = sql.filter (fun c => !isBlank c) ∧
      (tidy sql = tidy other ↔ bare sql = bare other) := by
  refine ⟨?_, ?_, ?_, ?_⟩
  · rw [tidy_eq_respace, tidy_eq_respace, respace_respace,
      andThen_tidyRule tidyRule_of_not_isEdge]
  · rw [tidy_eq_respace]
    exact filter_respaceFrom tidyRule none false sql
  · intro same
    have bared := congrArg bare same
    rwa [bare_tidy, bare_tidy] at bared
  · intro same
    have tidied := congrArg tidy same
    rwa [tidy_bare, tidy_bare] at tidied

example : tidy "SELECT  COUNT( 1 ),a\n FROM t " = "SELECT COUNT (1) , a FROM t" := by
  decide

end SqlFanout.Sql
