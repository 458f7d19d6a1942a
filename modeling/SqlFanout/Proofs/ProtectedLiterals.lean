import Mathlib.Algebra.Group.Nat.Even
import SqlFanout.Proofs.FieldList

/-!
# Literals with protected quotes

The scanner does not know backslashes: to it, a quote that is protected inside of a
literal closes the literal like any other.  So what follows such a quote is read as if
it stood outside, up to the next one.  A list of fields with literals is read back
exactly if each field but the last leaves the scanner at top level and none shows it
a comma there; as long as no parenthesis and no other quote gets outside, this is a
matter of the parity of the quotes in the literals (`splitFields_join_literals_iff`).
-/

namespace SqlFanout.Sql

open Text

/-- A stretch of a field: characters that open, close and divide nothing, or the
content of a literal in single quotes. -/
inductive FieldPart where
  | bare (text : Text)
  | literal (content : Text)

def protectChar (c : Char) : Text :=
  if c = '\x27' ∨ c = '\\' then ['\\', c] else [c]

/-- Writes a backslash before every single quote and every backslash. -/
def protect (content : Text) : Text :=
  content.flatMap protectChar

namespace FieldPart

def spelling : FieldPart → Text
  | bare text => text
  | literal content => '\x27' :: (protect content ++ ['\x27'])

def content : FieldPart → Text
  | bare _ => []
  | literal content => content

def isPlain : FieldPart → Bool
  | bare text => text.all fun c => !(',' :: Nesting.brackets).contains c
  | literal _ => true

end FieldPart

def spellParts (parts : List FieldPart) : Text :=
  parts.flatMap (·.spelling)

/-- The contents of all literals, one behind the other. -/
def literalText (parts : List FieldPart) : Text :=
  parts.flatMap (·.content)

/-- A text with no blank at its ends, in stretches and literals. -/
structure IsField (parts : List FieldPart) : Prop where
  plain : parts.all (·.isPlain) = true
  tight : Tight (spellParts parts)

theorem isField_iff {parts : List FieldPart} :
    IsField parts ↔ parts.all (·.isPlain) = true ∧ Tight (spellParts parts) := by
  constructor
  · rintro ⟨plain, tight⟩
    exact ⟨plain, tight⟩
  · rintro ⟨plain, tight⟩
    exact ⟨plain, tight⟩

instance (parts : List FieldPart) : Decidable (IsField parts) :=
  decidable_of_iff _ isField_iff.symm

/-- Whether the number of single quotes that have been passed is odd behind a text,
given whether it was before. -/
def passesOdd : Bool → Text → Bool
  | odd, [] => odd
  | odd, c :: rest => passesOdd (if c = '\x27' then !odd else odd) rest

/-- The characters of a text that stand behind an odd number of single quotes. -/
def exposed : Bool → Text → Text
  | _, [] => []
  | odd, c :: rest =>
      if c = '\x27' then exposed (!odd) rest
      else if odd then c :: exposed odd rest
      else exposed odd rest

theorem passesOdd_append (odd : Bool) (left right : Text) :
    passesOdd odd (left ++ right) = passesOdd (passesOdd odd left) right := by
  induction left generalizing odd with
  | nil => rfl
  | cons c left induction => exact induction _

theorem exposed_append (odd : Bool) (left right : Text) :
    exposed odd (left ++ right) = exposed odd left ++ exposed (passesOdd odd left) right := by
  induction left generalizing odd with
  | nil => rfl
  | cons c left induction =>
      rw [List.cons_append, exposed, exposed, passesOdd]
      by_cases quote : c = '\x27'
      · rw [if_pos quote, if_pos quote, if_pos quote, induction]
      · rw [if_neg quote, if_neg quote, if_neg quote, induction]
        cases odd <;> rfl

theorem passesOdd_eq_iff {odd : Bool} {text : Text} :
    passesOdd odd text = odd ↔ Even (text.count '\x27') := by
  induction text generalizing odd with
  | nil => simp [passesOdd]
  | cons c text induction =>
      rw [passesOdd]
      by_cases quote : c = '\x27'
      · have turned : passesOdd (!odd) text = odd ↔ ¬passesOdd (!odd) text = !odd := by
          cases odd <;> simp
        rw [if_pos quote, quote, List.count_cons_self, Nat.even_add_one, turned, induction]
      · rw [if_neg quote, List.count_cons_of_ne quote, induction]

/-- A text that opens and closes nothing. -/
def Neutral (text : Text) : Prop :=
  ∀ c ∈ text, c ∉ Nesting.brackets

instance (text : Text) : Decidable (Neutral text) :=
  List.decidableBAll (fun c => c ∉ Nesting.brackets) text

theorem neutral_append_iff {left right : Text} :
    Neutral (left ++ right) ↔ Neutral left ∧ Neutral right :=
  List.forall_mem_append

theorem exposed_of_not_mem {text : Text} (absent : '\x27' ∉ text) : exposed false text = [] := by
  induction text with
  | nil => rfl
  | cons c text induction =>
      obtain ⟨different, later⟩ := List.ne_and_not_mem_of_not_mem_cons absent
      rw [exposed, if_neg (Ne.symm different), induction later]
      rfl

theorem uncut_of_not_mem {text : Text} (absent : ',' ∉ text) (nesting : Nesting) :
    Uncut nesting text := by
  induction text generalizing nesting with
  | nil => exact uncut_nil nesting
  | cons c text induction =>
      obtain ⟨different, later⟩ := List.ne_and_not_mem_of_not_mem_cons absent
      have here : (c == ',') = false := beq_eq_false_iff_ne.mpr (Ne.symm different)
      exact uncut_cons_iff.mpr ⟨by rw [here, Bool.false_and], induction later _⟩

namespace Nesting

/-- Where the scanner stands behind single quotes, when nothing else is open. -/
def behindQuotes (odd : Bool) : Nesting :=
  ⟨0, if odd then some '\x27' else none⟩

theorem sane_behindQuotes (odd : Bool) : (behindQuotes odd).Sane := by
  cases odd
  · exact sane_top
  · simp [Sane, behindQuotes, isQuote]

theorem behindQuotes_eq_top_iff {odd : Bool} : behindQuotes odd = .top ↔ odd = false := by
  cases odd <;> decide

end Nesting

/-- From one state, the scanner comes through a text to another one, and the commas
that it meets at top level are those of a third text. -/
structure Scans (start : Nesting) (text : Text) (behind : Nesting) (shown : Text) : Prop where
  after : start.after text = behind
  uncut : Uncut start text ↔ ',' ∉ shown

namespace Scans

theorem nil (nesting : Nesting) : Scans nesting [] nesting [] :=
  ⟨rfl, by simp [uncut_nil]⟩

theorem append {start middle behind : Nesting} {left right shownLeft shownRight : Text}
    (first : Scans start left middle shownLeft) (second : Scans middle right behind shownRight) :
    Scans start (left ++ right) behind (shownLeft ++ shownRight) := by
  constructor
  · rw [Nesting.after_append, first.after, second.after]
  · rw [uncut_append_iff, first.after, first.uncut, second.uncut, List.mem_append, not_or]

theorem of_plain {nesting : Nesting} (sane : nesting.Sane) {text : Text}
    (plain : ∀ c ∈ text, c ∉ ',' :: Nesting.brackets) : Scans nesting text nesting [] := by
  constructor
  · apply sane.after_of_not_mem
    intro c member
    exact (List.ne_and_not_mem_of_not_mem_cons (plain c member)).2
  · have uncut : Uncut nesting text :=
      uncut_of_not_mem (fun member => plain ',' member List.mem_cons_self) nesting
    simp [uncut]

theorem of_quote (odd : Bool) :
    Scans (Nesting.behindQuotes odd) ['\x27'] (Nesting.behindQuotes (!odd)) [] := by
  cases odd <;> exact ⟨rfl, by decide⟩

/-- Inside of a literal, where the scanner is one quote ahead, a character is seen if
it stands behind an odd number of the quotes of the content. -/
theorem of_protectChar {odd : Bool} {c : Char}
    (hidden : Neutral (exposed odd [c])) :
    Scans (Nesting.behindQuotes (!odd)) (protectChar c)
      (Nesting.behindQuotes (!passesOdd odd [c])) (exposed odd [c]) := by
  by_cases special : c = '\x27' ∨ c = '\\'
  · rcases special with rfl | rfl <;> cases odd <;> exact ⟨rfl, by decide⟩
  obtain ⟨unquoted, -⟩ := not_or.mp special
  rw [protectChar, if_neg special, passesOdd, if_neg unquoted]
  cases odd with
  | false =>
      have inside : (Nesting.behindQuotes true).step c = Nesting.behindQuotes true := by
        rw [Nesting.step, Nesting.behindQuotes]
        simp [unquoted]
      have silent : exposed false [c] = [] := by
        rw [exposed, if_neg unquoted]
        rfl
      have level : (Nesting.behindQuotes true).isTop = false := rfl
      rw [silent]
      exact ⟨inside, by simp [uncut_cons_iff, level, uncut_nil]⟩
  | true =>
      have shown : exposed true [c] = [c] := by
        rw [exposed, if_neg unquoted]
        rfl
      rw [shown] at hidden ⊢
      have level : Nesting.top.isTop = true := rfl
      refine ⟨Nesting.sane_top.after_of_not_mem hidden, ?_⟩
      change Uncut .top [c] ↔ _
      rw [uncut_cons_iff, level, Bool.and_true, beq_eq_false_iff_ne, List.mem_singleton]
      exact ⟨fun uncut => Ne.symm uncut.1, fun absent => ⟨Ne.symm absent, uncut_nil _⟩⟩

theorem of_protect {odd : Bool} {content : Text}
    (hidden : Neutral (exposed odd content)) :
    Scans (Nesting.behindQuotes (!odd)) (protect content)
      (Nesting.behindQuotes (!passesOdd odd content)) (exposed odd content) := by
  induction content generalizing odd with
  | nil => exact nil _
  | cons c content induction =>
      have shown : exposed odd (c :: content) =
          exposed odd [c] ++ exposed (passesOdd odd [c]) content :=
        exposed_append odd [c] content
      rw [shown, neutral_append_iff] at hidden
      rw [shown]
      exact (of_protectChar hidden.1).append (induction hidden.2)

theorem of_part {odd : Bool} {part : FieldPart} (isPlain : part.isPlain = true)
    (hidden : Neutral (exposed odd part.content)) :
    Scans (Nesting.behindQuotes odd) part.spelling
      (Nesting.behindQuotes (passesOdd odd part.content)) (exposed odd part.content) := by
  cases part with
  | bare text =>
      have plain : ∀ c ∈ text, c ∉ ',' :: Nesting.brackets := by
        simpa only [FieldPart.isPlain, List.all_eq_true, Bool.not_eq_true',
          List.contains_eq_mem, decide_eq_false_iff_not] using isPlain
      exact of_plain (Nesting.sane_behindQuotes odd) plain
  | literal content =>
      have closing := of_quote (!passesOdd odd content)
      rw [Bool.not_not] at closing
      have whole := (of_quote odd).append ((of_protect hidden).append closing)
      rw [List.append_nil] at whole
      exact whole

theorem of_parts {odd : Bool} {parts : List FieldPart} (isPlain : parts.all (·.isPlain) = true)
    (hidden : Neutral (exposed odd (literalText parts))) :
    Scans (Nesting.behindQuotes odd) (spellParts parts)
      (Nesting.behindQuotes (passesOdd odd (literalText parts)))
      (exposed odd (literalText parts)) := by
  induction parts generalizing odd with
  | nil => exact nil _
  | cons first parts induction =>
      have text : literalText (first :: parts) = first.content ++ literalText parts := rfl
      obtain ⟨plainFirst, plainOthers⟩ := Bool.and_eq_true_iff.mp isPlain
      rw [text, exposed_append, neutral_append_iff] at hidden
      rw [text, exposed_append, passesOdd_append]
      exact (of_part plainFirst hidden.1).append (induction plainOthers hidden.2)

end Scans

section Fields

variable {fields : List (List FieldPart)}

theorem listed_spellParts_iff (written : ∀ parts ∈ fields, IsField parts) :
    Listed (fields.map spellParts) ↔
      (∀ parts ∈ fields.dropLast, Nesting.top.after (spellParts parts) = .top) ∧
        ∀ parts ∈ fields, Uncut .top (spellParts parts) := by
  constructor
  · intro listed
    refine ⟨?_, fun parts member => listed.uncut _ (List.mem_map_of_mem member)⟩
    intro parts member
    apply listed.balanced
    rw [← List.map_dropLast]
    exact List.mem_map_of_mem member
  · rintro ⟨balanced, uncut⟩
    refine ⟨List.forall_mem_map.mpr fun parts member => (written parts member).tight,
      List.forall_mem_map.mpr uncut, ?_⟩
    rw [← List.map_dropLast]
    exact List.forall_mem_map.mpr balanced

/-- If what stands outside to the scanner opens and closes nothing, only the parity of
the quotes in the literals counts. -/
theorem listed_spellParts_parity_iff (written : ∀ parts ∈ fields, IsField parts)
    (hidden : ∀ parts ∈ fields, Neutral (exposed false (literalText parts))) :
    Listed (fields.map spellParts) ↔
      (∀ parts ∈ fields.dropLast, Even ((literalText parts).count '\x27')) ∧
        ∀ parts ∈ fields, ',' ∉ exposed false (literalText parts) := by
  have scans : ∀ parts ∈ fields, Scans .top (spellParts parts)
      (Nesting.behindQuotes (passesOdd false (literalText parts)))
      (exposed false (literalText parts)) := fun parts member =>
    Scans.of_parts (written parts member).plain (hidden parts member)
  rw [listed_spellParts_iff written]
  apply and_congr
  · apply forall₂_congr
    intro parts member
    rw [(scans parts (List.dropLast_subset _ member)).after, Nesting.behindQuotes_eq_top_iff,
      passesOdd_eq_iff]
  · apply forall₂_congr
    intro parts member
    exact (scans parts member).uncut

/-- Fields with literals, joined by commas, are read back exactly if each but the last
leaves the scanner at top level and none shows a comma there.  If no parenthesis and no
other quote stands behind an odd number of the quotes in the literals of its field,
they are read back exactly if each but the last has an even number of quotes in its
literals and no comma stands behind an odd number of them.  They are read back in any
case if the literals contain no quotes. -/
theorem splitFields_join_literals_iff (written : ∀ parts ∈ fields, IsField parts) :
    (splitFields (join ", " (fields.map spellParts)) = fields.map spellParts ↔
      (∀ parts ∈ fields.dropLast, Nesting.top.after (spellParts parts) = .top) ∧
        ∀ parts ∈ fields, Uncut .top (spellParts parts)) ∧
    ((∀ parts ∈ fields, Neutral (exposed false (literalText parts))) →
      (splitFields (join ", " (fields.map spellParts)) = fields.map spellParts ↔
        (∀ parts ∈ fields.dropLast, Even ((literalText parts).count '\x27')) ∧
          ∀ parts ∈ fields, ',' ∉ exposed false (literalText parts))) ∧
    ((∀ parts ∈ fields, '\x27' ∉ literalText parts) →
      splitFields (join ", " (fields.map spellParts)) = fields.map spellParts) := by
  rw [splitFields_join_iff]
  refine ⟨listed_spellParts_iff written, listed_spellParts_parity_iff written, ?_⟩
  intro unquoted
  have silent : ∀ parts ∈ fields, exposed false (literalText parts) = [] := fun parts member =>
    exposed_of_not_mem (unquoted parts member)
  have hidden : ∀ parts ∈ fields, Neutral (exposed false (literalText parts)) := by
    intro parts member
    simp [Neutral, silent parts member]
  rw [listed_spellParts_parity_iff written hidden]
  constructor
  · intro parts member
    rw [List.count_eq_zero.mpr (unquoted parts (List.dropLast_subset _ member))]
    exact Even.zero
  · intro parts member
    simp [silent parts member]

end Fields

/-- A comma, a parenthesis and a backslash in a literal, two quotes in one literal and in
two, and one quote in the last field. -/
def quotingFields : List (List FieldPart) :=
  [[.bare "x = ", .literal "a\\b, (c"],
    [.literal "'", .bare " + ", .literal " 'y, z' and '"], [.literal "it's"]]

theorem splitFields_join_literals_quoting :
    (∀ parts ∈ quotingFields, IsField parts) ∧
    (∀ parts ∈ quotingFields, Neutral (exposed false (literalText parts))) ∧
    splitFields "x = 'a\\\\b, (c', '\\'' + ' \\'y, z\\' and \\'', 'it\\'s'" =
      ["x = 'a\\\\b, (c'", "'\\'' + ' \\'y, z\\' and \\''", "'it\\'s'"] := by
  have written : ∀ parts ∈ quotingFields, IsField parts := by decide
  have hidden : ∀ parts ∈ quotingFields, Neutral (exposed false (literalText parts)) := by
    decide
  obtain ⟨-, parity, -⟩ := splitFields_join_literals_iff written
  have read := (parity hidden).mpr (by decide)
  exact ⟨written, hidden, read⟩

/-- A quote in a literal cuts its field at the comma behind it, or keeps the field from
being cut off from the next. -/
theorem splitFields_join_literals_differ :
    IsField [.literal "O'Brien, J."] ∧ IsField [.literal "it's"] ∧ IsField [.bare "b"] ∧
    ([[.literal "O'Brien, J."]].map spellParts = [("'O\\'Brien, J.'" : Text)] ∧
      splitFields (join ", " ["'O\\'Brien, J.'"]) = ["'O\\'Brien", "J.'"]) ∧
    [[.literal "it's"], [.bare "b"]].map spellParts = [("'it\\'s'" : Text), "b"] ∧
      splitFields (join ", " ["'it\\'s'", "b"]) = ["'it\\'s', b"] := by
  decide

end SqlFanout.Sql
