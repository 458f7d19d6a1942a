import Mathlib.Data.List.Forall2
import SqlFanout.Proofs.CleanMessages
import SqlFanout.Proofs.LineCounts

/-!
# Time limits

A strict check of a purge plan holds the time limit to a few shapes of digits and marks.
Decimal digits of any script pass for digits, and a line feed may follow the time
(`isValid_checkTime_iff`).  That line feed is the only line boundary that gets into the
call of an accepted plan, since names are made of word characters (`checkTime_accepts`).
-/

namespace SqlFanout.Text

/-- A text of a shape: what stands in the holes of the shape are digits. -/
def Fits (digit : Char → Bool) (shape : Frame) (text : Text) : Prop :=
  List.Forall₂ (fun slot c => slot.elim (digit c) (· == c) = true) shape text

instance (digit : Char → Bool) (shape : Frame) (text : Text) : Decidable (Fits digit shape text) :=
  List.instDecidableForall₂ shape text

namespace Fits

variable {digit other : Char → Bool} {shape : Frame} {text : Text}

theorem mem (fits : Fits digit shape text) {c : Char} (member : c ∈ text) :
    digit c = true ∨ some c ∈ shape := by
  induction fits with
  | nil => cases member
  | @cons slot d shape text here later induction =>
      rcases List.mem_cons.mp member with rfl | behind
      · cases slot with
        | none => exact .inl here
        | some mark =>
            obtain rfl : mark = c := eq_of_beq here
            exact .inr List.mem_cons_self
      · exact (induction behind).imp_right (List.mem_cons_of_mem slot)

theorem imp (fits : Fits digit shape text)
    (each : ∀ c ∈ text, digit c = true → other c = true) : Fits other shape text := by
  induction fits with
  | nil => exact .nil
  | @cons slot c shape text here later induction =>
      obtain ⟨first, others⟩ := List.forall_mem_cons.mp each
      refine .cons ?_ (induction others)
      cases slot with
      | none => exact first here
      | some mark => exact here

end Fits

/-- A text without line boundaries. -/
def Unbroken (text : Text) : Prop :=
  ∀ c ∈ text, isLineBreak c = false

instance (text : Text) : Decidable (Unbroken text) :=
  List.decidableBAll (fun c => isLineBreak c = false) text

theorem Unbroken.append {left right : Text} (first : Unbroken left) (second : Unbroken right) :
    Unbroken (left ++ right) :=
  List.forall_mem_append.mpr ⟨first, second⟩

theorem Unbroken.not_mem {text : Text} (unbroken : Unbroken text) {c : Char}
    (boundary : isLineBreak c = true) : c ∉ text := by
  intro member
  simp [unbroken c member] at boundary

theorem unbroken_of_isWord {text : Text} (word : ∀ c ∈ text, isWord c = true) :
    Unbroken text := fun c member =>
  isLineBreak_of_visible (isBlank_of_isWord (word c member))

theorem unbroken_ofInt (n : Int) : Unbroken (ofInt n) := by
  intro c member
  rcases mem_ofInt member with digit | rfl
  · exact isLineBreak_of_visible (isBlank_of_isWord (isWord_of_isAsciiDigit digit))
  · decide

theorem lineCountFrom_of_unbroken {text : Text} (unbroken : Unbroken text)
    (nonempty : text ≠ []) (started : Bool) : lineCountFrom started text = 1 := by
  induction text generalizing started with
  | nil => exact absurd rfl nonempty
  | cons c rest induction =>
      obtain ⟨first, others⟩ := List.forall_mem_cons.mp unbroken
      have single : c = '\r' → rest.head? ≠ some '\n' := by
        rintro rfl
        cases first
      rw [lineCountFrom_cons started single, first, if_neg Bool.false_ne_true]
      cases rest with
      | nil => rfl
      | cons d rest => exact induction others (List.cons_ne_nil d rest) true

end SqlFanout.Text

namespace SqlFanout.Purge

open Text

def dateShape (mark : Char) : Frame :=
  List.replicate 4 none ++ some mark :: List.replicate 2 none ++ some mark :: List.replicate 2 none

def clockShape : Frame :=
  List.replicate 2 none ++ some ':' :: List.replicate 2 none ++ some ':' :: List.replicate 2 none

/-- A date, with a time of the day behind a space or without one. -/
def IsTime (digit : Char → Bool) (text : Text) : Prop :=
  ∃ mark ∈ ['-', '/'], Fits digit (dateShape mark) text ∨
    Fits digit (dateShape mark ++ some ' ' :: clockShape) text

instance (digit : Char → Bool) (text : Text) : Decidable (IsTime digit text) :=
  List.decidableBEx (fun mark => Fits digit (dateShape mark) text ∨
    Fits digit (dateShape mark ++ some ' ' :: clockShape) text) ['-', '/']

theorem IsTime.imp {digit other : Char → Bool} {text : Text} (time : IsTime digit text)
    (each : ∀ c ∈ text, digit c = true → other c = true) : IsTime other text := by
  obtain ⟨mark, listed, date | moment⟩ := time
  · exact ⟨mark, listed, .inl (date.imp each)⟩
  · exact ⟨mark, listed, .inr (moment.imp each)⟩

/-- The marks of dates and times of the day. -/
def timeMarks : List Char :=
  ['-', '/', ' ', ':']

theorem IsTime.mem {digit : Char → Bool} {text : Text} (time : IsTime digit text) {c : Char}
    (member : c ∈ text) : digit c = true ∨ c ∈ timeMarks := by
  have marks : (['-', '/'].all fun mark =>
      (dateShape mark ++ some ' ' :: clockShape).all fun slot =>
        slot.all (timeMarks.contains ·)) = true := by decide
  obtain ⟨mark, listed, fits⟩ := time
  have slots := List.all_eq_true.mp (List.all_eq_true.mp marks mark listed)
  rcases fits with date | moment
  · refine (date.mem member).imp_right fun inside => ?_
    simpa using slots _ (List.mem_append_left _ inside)
  · refine (moment.mem member).imp_right fun inside => ?_
    simpa using slots _ inside

theorem IsTime.exists_cons {digit : Char → Bool} {text : Text} (time : IsTime digit text) :
    ∃ d rest, text = d :: rest ∧ digit d = true := by
  obtain ⟨mark, listed, date | moment⟩ := time
  · cases date with
    | cons here later => exact ⟨_, _, rfl, here⟩
  · cases moment with
    | cons here later => exact ⟨_, _, rfl, here⟩

/-- The shape that a form describes. -/
def shapeOf (form : Text) : Frame :=
  form.map fun f => if f == 'd' then none else some f

/-- A line feed may follow a text of a form, and nothing else. -/
theorem hasForm_iff {form text : Text} :
    hasForm form text = true ↔
      ∃ time, Fits isDecimal (shapeOf form) time ∧ (text = time ∨ text = time ++ ['\n']) := by
  induction form generalizing text with
  | nil =>
      simp only [hasForm, shapeOf, Fits, List.map_nil, List.forall₂_nil_left_iff]
      simp
  | cons f form induction =>
      cases text with
      | nil => simp [hasForm, shapeOf, Fits, List.forall₂_cons_left_iff]
      | cons c rest =>
          have slot : (if f == 'd' then isDecimal c else f == c) =
              (if f == 'd' then none else some f : Option Char).elim (isDecimal c) (· == c) := by
            split <;> rfl
          rw [hasForm, Bool.and_eq_true, induction, slot]
          constructor
          · rintro ⟨here, time, later, rfl | rfl⟩
            · exact ⟨c :: rest, .cons here later, .inl rfl⟩
            · exact ⟨c :: time, .cons here later, .inr rfl⟩
          · rintro ⟨time, fits, ends⟩
            cases fits with
            | @cons _ d _ time here later =>
                rcases ends with same | same
                · obtain ⟨rfl, rfl⟩ := List.cons.inj same
                  exact ⟨here, rest, later, .inl rfl⟩
                · obtain ⟨rfl, rfl⟩ := List.cons.inj same
                  exact ⟨here, time, later, .inr rfl⟩

theorem exists_form_iff {text : Text} :
    (∃ form ∈ timeForms, Fits isDecimal (shapeOf form) text) ↔ IsTime isDecimal text := by
  have shapes : timeForms.map shapeOf =
      [dateShape '-', dateShape '-' ++ some ' ' :: clockShape,
        dateShape '/', dateShape '/' ++ some ' ' :: clockShape] := by decide
  have listed : (∃ form ∈ timeForms, Fits isDecimal (shapeOf form) text) ↔
      ∃ shape ∈ timeForms.map shapeOf, Fits isDecimal shape text := by simp
  rw [listed, shapes]
  simp [IsTime, or_assoc]

theorem isBlank_of_isDecimal {c : Char} (digit : isDecimal c = true) : isBlank c = false := by
  cases blank : isBlank c with
  | false => rfl
  | true => simp [isDecimal_of_isBlank blank] at digit

theorem isDecimal_of_isAscii {c : Char} (ascii : isAscii c = true) :
    isDecimal c = isAsciiDigit c := by
  rw [isDecimal, decimalValue?, if_pos ascii]
  cases isAsciiDigit c <;> rfl

theorem isValid_checkTime_iff {value : Text} :
    (checkTime value).isValid = true ↔
      ∃ time, IsTime isDecimal time ∧ (value = time ∨ value = time ++ ['\n']) := by
  have formed : timeForms.any (hasForm · value) = true ↔
      ∃ time, IsTime isDecimal time ∧ (value = time ∨ value = time ++ ['\n']) := by
    simp only [List.any_eq_true, hasForm_iff, ← exists_form_iff]
    constructor
    · rintro ⟨form, listed, time, fits, ends⟩
      exact ⟨time, ⟨form, listed, fits⟩, ends⟩
    · rintro ⟨time, ⟨form, listed, fits⟩, ends⟩
      exact ⟨form, listed, time, fits, ends⟩
  rw [checkTime]
  split
  next blank =>
    refine iff_of_false Bool.false_ne_true ?_
    rintro ⟨time, moment, ends⟩
    obtain ⟨d, rest, rfl, digit⟩ := moment.exists_cons
    have visible := isBlank_of_isDecimal digit
    rcases ends with rfl | rfl
    · simp [isBlankText, visible] at blank
    · simp [isBlankText, visible] at blank
  next =>
    split
    next fits => exact iff_of_true rfl (formed.mp fits)
    next other => exact iff_of_false Bool.false_ne_true fun found => other (formed.mpr found)

theorem IsTime.unbroken {time : Text} (moment : IsTime isDecimal time) : Unbroken time := by
  have marks : (timeMarks.all fun mark => !isLineBreak mark) = true := by decide
  intro c member
  rcases moment.mem member with digit | mark
  · exact isLineBreak_of_visible (isBlank_of_isDecimal digit)
  · simpa using List.all_eq_true.mp marks c mark

/-- The times in ASCII digits are those that hold nothing beyond ASCII and no line feed. -/
theorem isTime_isAsciiDigit_iff {value : Text} :
    IsTime isAsciiDigit value ↔
      (checkTime value).isValid = true ∧ (∀ c ∈ value, isAscii c = true) ∧ '\n' ∉ value := by
  have marks : (timeMarks.all isAscii) = true := by decide
  rw [isValid_checkTime_iff]
  constructor
  · intro time
    have ascii : ∀ c ∈ value, isAscii c = true := fun c member =>
      (time.mem member).elim isAscii_of_isAsciiDigit (List.all_eq_true.mp marks c)
    have moment : IsTime isDecimal value := time.imp fun c member digit => by
      rwa [isDecimal_of_isAscii (ascii c member)]
    exact ⟨⟨value, moment, .inl rfl⟩, ascii, moment.unbroken.not_mem rfl⟩
  · rintro ⟨⟨time, moment, rfl | rfl⟩, ascii, unbroken⟩
    · exact moment.imp fun c member digit => by
        rwa [← isDecimal_of_isAscii (ascii c member)]
    · exact absurd (List.mem_append_right time List.mem_cons_self) unbroken

theorem isWord_of_checkIdentifier {label value : Text}
    (accepted : (checkIdentifier label value).isValid = true) :
    ∀ c ∈ value, isWord c = true := by
  unfold checkIdentifier at accepted
  dsimp only at accepted
  split at accepted
  · cases accepted
  · split at accepted
    · cases accepted
    next plain => simpa using plain

namespace PurgePlan

theorem checks_of_check {plan : PurgePlan} (accepted : (plan.check true).isValid = true) :
    (∀ entry ∈ plan.names, (checkIdentifier entry.1 entry.2).isValid = true) ∧
      (checkTime plan.endTime).isValid = true := by
  have strict : plan.checkForms.isValid = true := by
    rw [check_strict, Verdict.orElse] at accepted
    split at accepted
    next => exact accepted
    next refused => exact absurd accepted refused
  unfold checkForms at strict
  split at strict
  next refusal found =>
    rw [refused_of_firstRefusal? found] at strict
    cases strict
  next none =>
    rw [firstRefusal?_eq, Option.map_eq_none_iff, List.find?_eq_none] at none
    refine ⟨fun entry member => by simpa using none entry member, ?_⟩
    rw [Verdict.orElse] at strict
    split at strict
    next timely => exact timely
    next late => exact strict

/-- What stands in a call before the time. -/
def callOpening (plan : PurgePlan) : Text :=
  "CALL " ++ plan.procedureName ++ "(" ++ ofInt plan.limitSize ++ ", '"

/-- What stands in a call behind the time. -/
def callClosing (plan : PurgePlan) : Text :=
  "', " ++ ofInt plan.minId ++ ");"

theorem callExample_eq (plan : PurgePlan) :
    plan.callExample = plan.callOpening ++ (plan.endTime ++ plan.callClosing) := by
  have regrouped : ∀ front time first second last : Text,
      front ++ time ++ first ++ second ++ last = front ++ (time ++ (first ++ second ++ last)) := by
    intro front time first second last
    simp only [List.append_assoc]
  exact regrouped plan.callOpening plan.endTime _ _ _

theorem unbroken_callOpening {plan : PurgePlan}
    (word : ∀ c ∈ plan.procedureName, isWord c = true) : Unbroken plan.callOpening := by
  have call : Unbroken "CALL " := by decide
  have parenthesis : Unbroken "(" := by decide
  have quote : Unbroken ", '" := by decide
  exact (((call.append (unbroken_of_isWord word)).append parenthesis).append
    (unbroken_ofInt plan.limitSize)).append quote

theorem unbroken_callClosing (plan : PurgePlan) : Unbroken plan.callClosing := by
  have quote : Unbroken "', " := by decide
  have ending : Unbroken ");" := by decide
  exact (quote.append (unbroken_ofInt plan.minId)).append ending

theorem callClosing_ne_nil (plan : PurgePlan) : plan.callClosing ≠ [] :=
  List.cons_ne_nil _ _

theorem lineCount_callExample {plan : PurgePlan} (accepted : (plan.check true).isValid = true) :
    lineCount plan.callExample = if '\n' ∈ plan.endTime then 2 else 1 := by
  obtain ⟨named, timely⟩ := checks_of_check accepted
  have word : ∀ c ∈ plan.procedureName, isWord c = true :=
    isWord_of_checkIdentifier (named ("프로시저명", plan.procedureName) List.mem_cons_self)
  have opening := unbroken_callOpening word
  have closing := unbroken_callClosing plan
  obtain ⟨time, moment, ends⟩ := isValid_checkTime_iff.mp timely
  have inside := moment.unbroken
  rw [callExample_eq, lineCount]
  rcases ends with same | same
  · rw [same, if_neg (inside.not_mem rfl)]
    apply lineCountFrom_of_unbroken (opening.append (inside.append closing))
    simp [plan.callClosing_ne_nil]
  · have line := opening.append inside
    have last : (plan.callOpening ++ time).getLast? ≠ some '\r' := fun ended =>
      line.not_mem rfl (List.mem_of_getLast? ended)
    have regrouped : plan.callOpening ++ (time ++ ['\n'] ++ plan.callClosing) =
        plan.callOpening ++ time ++ '\n' :: plan.callClosing := by
      simp only [List.append_assoc, List.singleton_append]
    rw [same, if_pos (List.mem_append_right time List.mem_cons_self), regrouped,
      lineCountFrom_line (line.not_mem rfl) last,
      lineCountFrom_of_unbroken closing plan.callClosing_ne_nil,
      List.countP_eq_zero.mpr fun c member => by simp [line c member]]

end PurgePlan

/-- A text passes for a time if it is one in the digits of any script, and a line feed may
follow it; with ASCII alone and without a line feed, it is one in ASCII digits.  A strict
plan that is accepted has a call of one line, if no line feed follows its time. -/
theorem checkTime_accepts (value : Text) (plan : PurgePlan) :
    ((checkTime value).isValid = true ↔
      ∃ time, IsTime isDecimal time ∧ (value = time ∨ value = time ++ ['\n'])) ∧
    (IsTime isAsciiDigit value ↔
      (checkTime value).isValid = true ∧ (∀ c ∈ value, isAscii c = true) ∧ '\n' ∉ value) ∧
    ((plan.check true).isValid = true →
      (plan.generate true).value.success = true ∧
        (plan.generate true).value.callExample = plan.callExample ∧
        lineCount plan.callExample = if '\n' ∈ plan.endTime then 2 else 1) := by
  refine ⟨isValid_checkTime_iff, isTime_isAsciiDigit_iff, fun accepted => ?_⟩
  have generated : (plan.generate true).value.success = true ∧
      (plan.generate true).value.callExample = plan.callExample := by
    rw [PurgePlan.generate, PurgePlan.generateWith_eq_run, Generator.run, if_pos accepted]
    exact ⟨rfl, rfl⟩
  exact ⟨generated.1, generated.2, PurgePlan.lineCount_callExample accepted⟩

/-- A plan whose time is written in Arabic-Indic digits, with a line feed behind it. -/
def laxPlan : PurgePlan :=
  { procedureName := "p", tableName := "t", endTime := "٢٠٢٣/٠١/٠١ ١٢:٠٠:٠٠\n" }

theorem checkTime_accepts_lax :
    (laxPlan.check true).isValid = true ∧
    IsTime isDecimal "٢٠٢٣/٠١/٠١ ١٢:٠٠:٠٠" ∧ (checkTime laxPlan.endTime).isValid = true ∧
    ¬ IsTime isAsciiDigit laxPlan.endTime ∧
    (laxPlan.generate true).value.callExample =
      "CALL p(1000, '٢٠٢٣/٠١/٠١ ١٢:٠٠:٠٠\n', 0);" ∧
    lineCount (laxPlan.generate true).value.callExample = 2 := by
  obtain ⟨accepts, ascii, calls⟩ := checkTime_accepts laxPlan.endTime laxPlan
  have accepted : (laxPlan.check true).isValid = true := by decide
  have moment : IsTime isDecimal "٢٠٢٣/٠١/٠١ ١٢:٠٠:٠٠" := by decide
  obtain ⟨-, call, counted⟩ := calls accepted
  refine ⟨accepted, moment, accepts.mpr ⟨_, moment, .inr rfl⟩, ?_, ?_, ?_⟩
  · intro time
    exact (ascii.mp time).2.2 (by decide)
  · rw [call]
    decide
  · rw [call, counted]
    rfl

/-- A line feed behind a date is let through, and so are digits of another script. -/
theorem checkTime_accepts_line_feed :
    (checkTime "2023-01-01\n").isValid = true ∧ ¬ IsTime isAsciiDigit "2023-01-01\n" ∧
    (checkTime "٢٠٢٣-٠١-٠١").isValid = true ∧ ¬ IsTime isAsciiDigit "٢٠٢٣-٠١-٠١" ∧
    (laxPlan.check true).isValid = true ∧ lineCount laxPlan.callExample = 2 := by
  decide

end SqlFanout.Purge
