import SqlFanout.Proofs.Generators
import SqlFanout.Proofs.Suffixes

/-!
# Complaints without control characters

What a generator complains about reaches its caller as a message.  The words of a
fault are sanitized on their way, and the verdicts of the checks speak in fixed
words and numbers, so that their messages hold no control character.  One verdict
quotes the request: a strict purge plan is told which characters of a name are not
allowed.  `complaints_clean` says that this is the only way in which a control
character gets into a complaint, and exactly when it does.
-/

namespace SqlFanout

open Text

/-- A text without control characters. -/
def isClean (text : Text) : Bool :=
  text.all fun c => !isControl c

theorem isClean_append (left right : Text) :
    isClean (left ++ right) = (isClean left && isClean right) :=
  List.all_append

/-- A literal is clean if its characters are; they need not be decoded for that. -/
theorem isClean_literal {chars : List Char} (clean : isClean chars = true) :
    isClean (String.ofList chars).toList = true := by
  rw [String.toList_ofList]
  exact clean

theorem isClean_sanitize (message : Text) : isClean (sanitize message) = true := by
  rw [isClean, List.all_eq_true]
  intro c member
  exact (List.mem_filter.mp member).2

theorem isControl_of_isWord {c : Char} (word : isWord c = true) : isControl c = false := by
  cases ascii : isAscii c with
  | true =>
      exact ascii_cases (fun c => isWord c = true → isControl c = false) (by decide) ascii word
  | false =>
      have large : 128 ≤ c.toNat := by simpa [isAscii] using ascii
      simp only [isControl, Bool.or_eq_false_iff, decide_eq_false_iff_not, beq_eq_false_iff_ne]
      omega

theorem isClean_ofInt (n : Int) : isClean (ofInt n) = true := by
  rw [isClean, List.all_eq_true]
  intro c member
  rcases mem_ofInt member with digit | rfl
  · simp [isControl_of_isWord (isWord_of_isAsciiDigit digit)]
  · decide

theorem isClean_filter_isWord (text : Text) :
    isClean (text.filter fun c => !isWord c) = isClean text := by
  have same : (fun c => !!isWord c || !isControl c) = fun c => !isControl c := by
    funext c
    cases word : isWord c with
    | true => simp [isControl_of_isWord word]
    | false => rfl
  rw [isClean, List.all_filter, same]
  rfl

theorem isClean_accept {chars : List Char} (clean : isClean chars = true) :
    isClean (Verdict.accept (String.ofList chars).toList).message = true :=
  isClean_literal clean

theorem isClean_refuse {chars : List Char} (clean : isClean chars = true) :
    isClean (Verdict.refuse (String.ofList chars).toList).message = true :=
  isClean_literal clean

theorem isClean_malformed {chars : List Char} (clean : isClean chars = true) :
    isClean (Verdict.malformed (String.ofList chars).toList).message = true :=
  isClean_literal clean

theorem isClean_refuse_around {before after : List Char} {text : Text}
    (first : isClean before = true) (middle : isClean text = true)
    (last : isClean after = true) :
    isClean (Verdict.refuse ((String.ofList before).toList ++ text
      ++ (String.ofList after).toList)).message = true := by
  change isClean (_ ++ text ++ _) = true
  rw [isClean_append, isClean_append, isClean_literal first, middle, isClean_literal last]
  rfl

theorem isClean_orElse {verdict : Verdict} {next : Unit → Verdict}
    (first : isClean verdict.message = true) (second : isClean (next ()).message = true) :
    isClean (verdict.orElse next).message = true := by
  unfold Verdict.orElse
  split
  · exact second
  · exact first

theorem SuffixStyle.isClean_checkFormat (style : SuffixStyle) (format : Text) :
    isClean (style.checkFormat format).message = true := by
  unfold checkFormat
  split
  · exact isClean_refuse rfl
  · split
    · exact isClean_refuse rfl
    · exact isClean_accept rfl

theorem Sql.isClean_checkShape (sql : Text) : isClean (checkShape sql).message = true := by
  unfold checkShape
  split
  · exact isClean_refuse rfl
  · dsimp only
    split
    · exact isClean_malformed rfl
    · split
      · exact isClean_malformed rfl
      · exact isClean_accept rfl

namespace ShardPlan

theorem isClean_checkStart (series : SuffixSeries) :
    isClean (checkStart series).message = true := by
  unfold checkStart
  split
  · decide
  · split
    · exact isClean_refuse rfl
    · exact isClean_accept rfl

theorem isClean_check (settings : Settings) (plan : ShardPlan) :
    isClean (plan.check settings).message = true := by
  unfold check
  split
  · exact isClean_refuse rfl
  · split
    · exact isClean_refuse rfl
    · split
      · exact isClean_refuse_around rfl (isClean_ofInt settings.maxShardCount) rfl
      · split
        · exact isClean_refuse rfl
        · exact isClean_orElse (plan.series.style.isClean_checkFormat _)
            (isClean_checkStart plan.series)

theorem isClean_checkQuery (settings : Settings) (plan : ShardPlan) :
    isClean (plan.checkQuery settings).message = true := by
  apply isClean_orElse (plan.isClean_check settings)
  split
  · exact Sql.isClean_checkShape plan.sql
  · exact isClean_refuse rfl

end ShardPlan

set_option maxRecDepth 2000 in
theorem Builder.CodeRequest.isClean_check (settings : Settings) (request : CodeRequest) :
    isClean (request.check settings).message = true := by
  unfold check
  split
  · exact isClean_refuse rfl
  · split
    · exact isClean_refuse rfl
    · split
      · exact isClean_refuse rfl
      · split
        · exact isClean_refuse_around rfl (isClean_ofInt settings.maxSqlLength) rfl
        · exact isClean_accept rfl

namespace Purge

/-- The first verdict that refuses is the one on the first text that is refused. -/
theorem firstRefusal?_eq (verdict : Text → Text → Verdict) (labelled : List (Text × Text)) :
    firstRefusal? verdict labelled =
      (labelled.find? fun entry => !(verdict entry.1 entry.2).isValid).map fun entry =>
        verdict entry.1 entry.2 := by
  rw [firstRefusal?, List.find?_map]
  rfl

theorem isClean_refuse_label {label : Text} {after : List Char}
    (first : isClean label = true) (last : isClean after = true) :
    isClean (Verdict.refuse (label ++ (String.ofList after).toList)).message = true := by
  change isClean (label ++ _) = true
  rw [isClean_append, first, isClean_literal last]
  rfl

theorem isClean_checkPresent {label : Text} (clean : isClean label = true) (value : Text) :
    isClean (checkPresent label value).message = true := by
  unfold checkPresent
  split
  · exact isClean_refuse_label clean rfl
  · exact clean

theorem isClean_checkTime (value : Text) : isClean (checkTime value).message = true := by
  unfold checkTime
  split
  · exact isClean_refuse rfl
  · split
    · exact isClean_accept rfl
    · exact isClean_refuse rfl

/-- A refused name is quoted as far as it is strange, which all of its control
characters are. -/
theorem isClean_checkIdentifier {label value : Text} (clean : isClean label = true)
    (present : isBlankText value = false)
    (refused : (checkIdentifier label value).isValid = false) :
    isClean (checkIdentifier label value).message = isClean value := by
  rw [← isClean_filter_isWord value]
  unfold checkIdentifier at refused ⊢
  rw [if_neg (by simp [present])] at refused ⊢
  split
  · change isClean (label ++ _ ++ _) = _
    rw [isClean_append, isClean_append, clean, isClean_literal rfl]
    rfl
  next plain =>
    rw [if_neg plain] at refused
    have wordly : (value.filter fun c => !isWord c) = [] := by simpa using plain
    rw [wordly]
    split
    · exact isClean_refuse_label clean rfl
    next digitless =>
      rw [if_neg digitless] at refused
      cases refused

namespace PurgePlan

theorem isClean_label (plan : PurgePlan) :
    ∀ entry ∈ plan.names, isClean entry.1 = true := by
  intro entry member
  simp only [names, List.mem_cons, List.not_mem_nil, or_false] at member
  rcases member with rfl | rfl | rfl | rfl <;> rfl

theorem refused_of_firstRefusal? {verdict : Text → Text → Verdict}
    {labelled : List (Text × Text)} {refusal : Verdict}
    (found : firstRefusal? verdict labelled = some refusal) : refusal.isValid = false := by
  have refused := List.find?_some found
  simpa using refused

theorem isClean_check_lenient (plan : PurgePlan) :
    isClean (plan.check false).message = true := by
  unfold check
  split
  next refusal found =>
    rw [firstRefusal?_eq, Option.map_eq_some_iff] at found
    obtain ⟨entry, first, rfl⟩ := found
    exact isClean_checkPresent (plan.isClean_label entry (List.mem_of_find?_eq_some first)) _
  · split
    · exact isClean_refuse rfl
    · split
      · exact isClean_refuse rfl
      · exact isClean_accept rfl

/-- The strict check goes on where the lenient one ends. -/
theorem check_strict (plan : PurgePlan) :
    plan.check true = (plan.check false).orElse fun _ => plan.checkForms := by
  unfold check
  split
  next refusal found =>
    rw [Verdict.orElse, if_neg (by simp [refused_of_firstRefusal? found])]
  · split
    · rfl
    · split <;> rfl

theorem present_of_check {plan : PurgePlan} (accepted : (plan.check false).isValid = true) :
    ∀ entry ∈ plan.names, isBlankText entry.2 = false := by
  intro entry member
  unfold check at accepted
  split at accepted
  next refusal found =>
    rw [refused_of_firstRefusal? found] at accepted
    cases accepted
  next none =>
    rw [firstRefusal?_eq, Option.map_eq_none_iff, List.find?_eq_none] at none
    have valid := none entry member
    unfold checkPresent at valid
    split at valid
    · exact absurd rfl valid
    next present => simpa using present

/-- The first name of a plan that is not well formed. -/
def misnamed? (plan : PurgePlan) : Option Text :=
  (plan.names.find? fun entry => !(checkIdentifier entry.1 entry.2).isValid).map (·.2)

theorem isClean_checkForms {plan : PurgePlan}
    (present : ∀ entry ∈ plan.names, isBlankText entry.2 = false) :
    (plan.checkForms.isValid || isClean plan.checkForms.message) =
      plan.misnamed?.all isClean := by
  unfold checkForms misnamed?
  rw [firstRefusal?_eq]
  cases found : plan.names.find? fun entry => !(checkIdentifier entry.1 entry.2).isValid with
  | none =>
      have clean : isClean ((checkTime plan.endTime).orElse fun _ =>
          .accept "설정 검증 통과").message = true :=
        isClean_orElse (isClean_checkTime plan.endTime) (isClean_accept rfl)
      exact Bool.or_eq_true_iff.mpr (.inr clean)
  | some entry =>
      have member := List.mem_of_find?_eq_some found
      have refused : (checkIdentifier entry.1 entry.2).isValid = false := by
        simpa using List.find?_some found
      have quoted := isClean_checkIdentifier (plan.isClean_label entry member)
        (present entry member) refused
      simp [refused, quoted]

theorem isClean_check_strict (plan : PurgePlan) :
    ((plan.check true).isValid || isClean (plan.check true).message) =
      (!(plan.check false).isValid || plan.misnamed?.all isClean) := by
  rw [check_strict, Verdict.orElse]
  cases accepted : (plan.check false).isValid with
  | false => simp [accepted, isClean_check_lenient plan]
  | true => simpa using isClean_checkForms (present_of_check accepted)

end PurgePlan

end Purge

/-- The complaint of a call is clean unless it repeats the verdict of a check that is
not. -/
theorem Generator.isClean_run {α ρ : Type} (generator : Generator α ρ) (verdict : Verdict)
    (step : Logged (Except Fault α)) :
    (generator.standing (generator.run verdict step).value).errorMessage.all isClean =
      (verdict.isValid || isClean verdict.message) := by
  rw [standing_run]
  cases verdict.isValid with
  | false => rfl
  | true =>
      cases step.value with
      | error fault => exact isClean_sanitize _
      | ok value => rfl

/-- No complaint of a generator holds a control character, whatever stopped it, unless
a plan for a purge is checked strictly: the complaint about the first name that is not
well formed is as clean as this name. -/
theorem complaints_clean (settings : Settings) (plan : ShardPlan)
    (request : Builder.CodeRequest) (language : Option Builder.Language) (code : Text)
    (purge : Purge.PurgePlan) :
    (∀ step, (plan.generateWith step settings).value.errorMessage.all isClean = true) ∧
    (∀ step clock assignment,
      (plan.generateTotalsWith step settings clock assignment).value.errorMessage.all isClean =
        true) ∧
    (∀ step, (request.generateWith step settings).value.errorMessage.all isClean = true) ∧
    (∀ step,
      (Builder.RecoveredSql.recoverWith step language code).value.errorMessage.all isClean =
        true) ∧
    (∀ step, (purge.generateWith step false).value.errorMessage.all isClean = true) ∧
    (∀ step, (purge.generateWith step true).value.errorMessage.all isClean =
      (!(purge.check false).isValid || purge.misnamed?.all isClean)) := by
  refine ⟨?_, ?_, ?_, ?_, ?_, ?_⟩
  · intro step
    have clean : isClean ((plan.check settings).orElse fun _ =>
        Sql.checkShape plan.sql).message = true :=
      isClean_orElse (plan.isClean_check settings) (Sql.isClean_checkShape plan.sql)
    rw [ShardPlan.generateWith_eq_run]
    refine (plan.statementsGenerator.isClean_run _ _).trans ?_
    rw [clean, Bool.or_true]
  · intro step clock assignment
    rw [ShardPlan.generateTotalsWith_eq_run]
    refine (plan.totalsGenerator.isClean_run _ _).trans ?_
    rw [plan.isClean_checkQuery settings, Bool.or_true]
  · intro step
    rw [Builder.CodeRequest.generateWith_eq_run]
    refine (request.generator.isClean_run _ _).trans ?_
    rw [request.isClean_check settings, Bool.or_true]
  · intro step
    rw [Builder.RecoveredSql.recoverWith, Builder.RecoveredSql.ofCodeWith_eq_run]
    exact (Builder.RecoveredSql.generator _ code).isClean_run _ _
  · intro step
    rw [Purge.PurgePlan.generateWith_eq_run]
    refine (purge.generator.isClean_run _ _).trans ?_
    rw [purge.isClean_check_lenient, Bool.or_true]
  · intro step
    rw [Purge.PurgePlan.generateWith_eq_run]
    exact (purge.generator.isClean_run _ _).trans purge.isClean_check_strict

/-- A plan whose procedure has a control character in its name. -/
def garbledPlan : Purge.PurgePlan :=
  { procedureName := "p\x01", tableName := "t", endTime := "2023-01-01" }

theorem strict_complaint_quotes_control :
    (garbledPlan.generate true).value.success = false ∧
    (garbledPlan.generate true).value.errorMessage =
      some "프로시저명에 허용되지 않는 문자가 있습니다: \x01" ∧
    (garbledPlan.generate true).value.errorMessage.all isClean = false := by
  decide

end SqlFanout
