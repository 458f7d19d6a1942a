import SqlFanout.Builder.Recovery
import SqlFanout.Purge.Procedure
import SqlFanout.Shard.Totals

/-!
# How generators end

The five generators end a call in the same ways.  A refused request and a fault of
the inner step are recorded and turned into a failed result; a value of the step
becomes a result without a complaint.  The generators differ in their words and in
the faults that they expect: an expected fault is reported in its own words, any
other one as trouble.  `Generator.run` is the common form, and the equations
`generateWith_eq_run` and their like say that each generator has it, whatever its
inner step does.  What a caller may rely on (`Generator.contract_run`) and what is
recorded (`Generator.length_alarms_run`) is therefore proved once.
-/

namespace SqlFanout

/-- What a result says about the call that it came from, its payload apart. -/
structure Standing where
  success : Bool
  errorMessage : Option Text
  errorKind : Option FaultKind
  deriving DecidableEq, Repr

/-- The records that call for attention. -/
def alarms (records : List Record) : List Record :=
  records.filter fun record => record.passes .warning

theorem alarms_append (left right : List Record) :
    alarms (left ++ right) = alarms left ++ alarms right :=
  List.filter_append left right

/-- A generator whose inner step makes values of type `α` and whose results are of
type `ρ`.  A bare result holds nothing but its standing. -/
structure Generator (α ρ : Type) where
  standing : ρ → Standing
  IsBare : ρ → Prop
  author : Author
  /-- How the record of a refusal begins. -/
  refusal : Text
  expects : Fault → Bool
  /-- How the record of an expected fault begins. -/
  setback : Text
  /-- The record of any other fault. -/
  trouble : Text
  /-- How the complaint about any other fault begins. -/
  lead : Text
  failed : Text → Option FaultKind → ρ
  finish : α → Logged ρ
  standing_failed : ∀ message kind,
    standing (failed message kind) = ⟨false, some message, kind⟩
  isBare_failed : ∀ message kind, IsBare (failed message kind)
  standing_finish : ∀ value, standing (finish value).value = ⟨true, none, none⟩
  alarms_finish : ∀ value, alarms (finish value).records = []

namespace Generator

variable {α ρ : Type} (generator : Generator α ρ)

/-- The complaint that reaches the caller when a fault stops the inner step. -/
def complaint (fault : Fault) : Text :=
  sanitize (if generator.expects fault then fault.message else generator.lead ++ fault.message)

/-- The record that is left of a fault. -/
def faultRecord (fault : Fault) : Record :=
  if generator.expects fault then
    ⟨.warning, generator.author, generator.setback ++ fault.message⟩
  else ⟨.error, generator.author, generator.trouble⟩

/-- Runs the inner step of a request that is not refused, and ends the call. -/
def run (verdict : Verdict) (step : Logged (Except Fault α)) : Logged ρ :=
  if verdict.isValid then
    match step.value with
    | .error fault =>
        ⟨step.records ++ [generator.faultRecord fault],
          generator.failed (generator.complaint fault) fault.kind⟩
    | .ok value =>
        ⟨step.records ++ (generator.finish value).records, (generator.finish value).value⟩
  else
    ⟨[⟨.warning, generator.author, generator.refusal ++ verdict.message⟩],
      generator.failed verdict.message verdict.kind⟩

/-- What a call says about itself is settled by the verdict and, behind a good one,
by the outcome of the inner step. -/
theorem standing_run (verdict : Verdict) (step : Logged (Except Fault α)) :
    generator.standing (generator.run verdict step).value =
      if verdict.isValid then
        match step.value with
        | .error fault => ⟨false, some (generator.complaint fault), some fault.kind⟩
        | .ok _ => ⟨true, none, none⟩
      else ⟨false, some verdict.message, verdict.kind⟩ := by
  unfold run
  split
  · cases step.value with
    | error fault => exact generator.standing_failed _ _
    | ok value => exact generator.standing_finish value
  · exact generator.standing_failed _ _

theorem passes_faultRecord (fault : Fault) :
    (generator.faultRecord fault).passes .warning = true := by
  unfold faultRecord
  split <;> rfl

end Generator

namespace Generator

variable {α ρ : Type} (generator : Generator α ρ)

theorem length_alarms_run (verdict : Verdict) {step : Logged (Except Fault α)}
    (quiet : alarms step.records = []) :
    (alarms (generator.run verdict step).records).length =
      if (generator.standing (generator.run verdict step).value).success then 0 else 1 := by
  rw [standing_run]
  unfold run
  cases verdict.isValid with
  | false => rfl
  | true =>
      cases step.value with
      | error fault =>
          have alarm : alarms [generator.faultRecord fault] = [generator.faultRecord fault] := by
            simp [alarms, generator.passes_faultRecord fault]
          simp [alarms_append, quiet, alarm]
      | ok value => simp [alarms_append, quiet, generator.alarms_finish value]

end Generator

namespace ShardedSql

def standing (result : ShardedSql) : Standing :=
  ⟨result.success, result.errorMessage, result.errorKind⟩

/-- A result without statements, count and tables. -/
def IsBare (result : ShardedSql) : Prop :=
  { result with errorMessage := none, errorKind := none } = ({} : ShardedSql)

end ShardedSql

namespace ShardTotals

def standing (result : ShardTotals) : Standing :=
  ⟨result.success, result.errorMessage, result.errorKind⟩

/-- A result without statement, count, tables and fields. -/
def IsBare (result : ShardTotals) : Prop :=
  { result with errorMessage := none, errorKind := none } = ({} : ShardTotals)

end ShardTotals

namespace ShardPlan

def statementsGenerator (plan : ShardPlan) : Generator (List Text) ShardedSql where
  standing := ShardedSql.standing
  IsBare := ShardedSql.IsBare
  author := .sharding
  refusal := "분표 SQL 생성 거부: "
  expects _ := false
  setback := []
  trouble := "분표 SQL 생성 중 에러"
  lead := "분표 SQL 생성 중 에러가 발생했습니다: "
  failed := ShardedSql.failed
  finish statements := do
    Logged.debug .sharding ("분표 SQL " ++ Text.ofNat statements.length ++ "개 생성")
    return { statements := statements, count := plan.count, tables := plan.tables, success := true }
  standing_failed _ _ := rfl
  isBare_failed _ _ := rfl
  standing_finish _ := rfl
  alarms_finish _ := rfl

theorem generateWith_eq_run (step : ShardPlan → Logged (Except Fault (List Text)))
    (settings : Settings) (plan : ShardPlan) :
    plan.generateWith step settings =
      plan.statementsGenerator.run
        ((plan.check settings).orElse fun _ => Sql.checkShape plan.sql) (step plan) := by
  unfold generateWith
  obtain ⟨isValid, message, kind⟩ :=
    (plan.check settings).orElse fun _ => Sql.checkShape plan.sql
  cases isValid with
  | false => rfl
  | true =>
      obtain ⟨records, outcome⟩ := step plan
      cases outcome <;> rfl

def totalsGenerator (plan : ShardPlan) :
    Generator (List Sql.SelectField × Text) ShardTotals where
  standing := ShardTotals.standing
  IsBare := ShardTotals.IsBare
  author := .totals
  refusal := "분표 통계 SQL 생성 거부: "
  expects := Fault.isOwn
  setback := "분표 통계 SQL 생성 실패: "
  trouble := "분표 통계 SQL 생성 중 에러"
  lead := "분표 통계 SQL 생성 중 에러가 발생했습니다: "
  failed := ShardTotals.failed
  finish made :=
    return { sql := made.2, count := plan.count, tables := plan.tables, fields := made.1,
             success := true }
  standing_failed _ _ := rfl
  isBare_failed _ _ := rfl
  standing_finish _ := rfl
  alarms_finish _ := rfl

theorem generateTotalsWith_eq_run
    (step : ShardPlan → List Sql.SelectField → Assignment → Logged (Except Fault Text))
    (settings : Settings) (clock : Clock) (assignment : Assignment) (plan : ShardPlan) :
    plan.generateTotalsWith step settings clock assignment =
      plan.totalsGenerator.run (plan.checkQuery settings)
        (plan.totalsOf step clock assignment) := by
  unfold generateTotalsWith
  obtain ⟨isValid, message, kind⟩ := plan.checkQuery settings
  cases isValid with
  | false => rfl
  | true =>
      obtain ⟨records, outcome⟩ := plan.totalsOf step clock assignment
      cases outcome with
      | error fault => cases fault <;> rfl
      | ok made => rfl

end ShardPlan

namespace Builder

namespace BuilderCode

def standing (result : BuilderCode) : Standing :=
  ⟨result.success, result.errorMessage, result.errorKind⟩

/-- A result without code, counts and name of a variable. -/
def IsBare (language : Language) (result : BuilderCode) : Prop :=
  { result with errorMessage := none, errorKind := none } =
    ({ language := language } : BuilderCode)

end BuilderCode

namespace CodeRequest

def generator (request : CodeRequest) : Generator Text BuilderCode where
  standing := BuilderCode.standing
  IsBare := BuilderCode.IsBare request.language
  author := .builder
  refusal := "코드 생성 거부: "
  expects _ := false
  setback := []
  trouble := "코드 생성 중 에러"
  lead := "코드 생성 중 에러가 발생했습니다: "
  failed := BuilderCode.failed request.language
  finish code :=
    return { code := code, lineCount := Text.lineCount code, charCount := code.length,
             language := request.language, variableName := request.variableName, success := true }
  standing_failed _ _ := rfl
  isBare_failed _ _ := rfl
  standing_finish _ := rfl
  alarms_finish _ := rfl

theorem generateWith_eq_run (step : CodeRequest → Except Fault Text) (settings : Settings)
    (request : CodeRequest) :
    request.generateWith step settings =
      request.generator.run (request.check settings) (pure (step request)) := by
  unfold generateWith
  obtain ⟨isValid, message, kind⟩ := request.check settings
  cases isValid with
  | false => rfl
  | true => cases step request <;> rfl

end CodeRequest

namespace RecoveredSql

def standing (result : RecoveredSql) : Standing :=
  ⟨result.success, result.errorMessage, result.errorKind⟩

/-- A result without statement, fragments and names of variables. -/
def IsBare (language : Language) (result : RecoveredSql) : Prop :=
  { result with errorMessage := none, errorKind := none } =
    ({ language := language } : RecoveredSql)

def generator (language : Language) (code : Text) : Generator (List Text) RecoveredSql where
  standing := RecoveredSql.standing
  IsBare := RecoveredSql.IsBare language
  author := .recovery
  refusal := []
  expects := Fault.isParse
  setback := "SQL 역변환 실패: "
  trouble := "SQL 역변환 중 에러"
  lead := "SQL 역변환 중 에러가 발생했습니다: "
  failed := RecoveredSql.failed language
  finish fragments := do
    Logged.debug .recovery
      ("SQL 조각 " ++ Text.ofNat fragments.length ++ "개 추출 (" ++ language.dialect.displayName
        ++ ")")
    return { sql := joinFragments fragments, fragments := fragments, language := language,
             variableNames := declaredNames language code, success := true }
  standing_failed _ _ := rfl
  isBare_failed _ _ := rfl
  standing_finish _ := rfl
  alarms_finish _ := rfl

theorem ofCodeWith_eq_run (step : Language → Text → Except Fault (List Text))
    (language : Language) (code : Text) :
    ofCodeWith step language code =
      (generator language code).run (.accept []) (pure (fragmentsOf step language code)) := by
  unfold ofCodeWith
  cases fragmentsOf step language code with
  | error fault =>
      cases fault with
      | special ofParse kind message => cases ofParse <;> rfl
      | configuration message => rfl
      | parse message => rfl
      | general message => rfl
      | foreign message => rfl
  | ok fragments => rfl

end RecoveredSql

end Builder

namespace Purge

namespace PurgeProcedure

def standing (result : PurgeProcedure) : Standing :=
  ⟨result.success, result.errorMessage, result.errorKind⟩

/-- A result without procedure, names, summary, example and plan. -/
def IsBare (result : PurgeProcedure) : Prop :=
  { result with errorMessage := none, errorKind := none } = ({} : PurgeProcedure)

end PurgeProcedure

namespace PurgePlan

def generator (plan : PurgePlan) : Generator Text PurgeProcedure where
  standing := PurgeProcedure.standing
  IsBare := PurgeProcedure.IsBare
  author := .purge
  refusal := "배치 삭제 프로시저 생성 거부: "
  expects _ := false
  setback := []
  trouble := "배치 삭제 프로시저 생성 중 에러"
  lead := "배치 삭제 프로시저 생성 중 에러가 발생했습니다: "
  failed := PurgeProcedure.failed
  finish procedure :=
    return { procedure := procedure, procedureName := plan.procedureName,
             tableName := plan.tableName, summary := plan.summary,
             callExample := plan.callExample, plan := some plan, success := true }
  standing_failed _ _ := rfl
  isBare_failed _ _ := rfl
  standing_finish _ := rfl
  alarms_finish _ := rfl

theorem generateWith_eq_run (step : PurgePlan → Except Fault Text) (strict : Bool)
    (plan : PurgePlan) :
    plan.generateWith step strict =
      plan.generator.run (plan.check strict) (pure (step plan)) := by
  unfold generateWith
  obtain ⟨isValid, message, kind⟩ := plan.check strict
  cases isValid with
  | false => rfl
  | true => cases step plan <;> rfl

end PurgePlan

end Purge

/-- A call that raises one alarm if it fails, and none if it succeeds. -/
def AlarmsOnFailure {ρ : Type} (success : ρ → Bool) (call : Logged ρ) : Prop :=
  (alarms call.records).length = if success call.value then 0 else 1

namespace ShardPlan

theorem alarms_statements (plan : ShardPlan) : alarms plan.statements.records = [] := rfl

theorem alarmsOnFailure_generateWith
    {step : ShardPlan → Logged (Except Fault (List Text))} {plan : ShardPlan}
    (quiet : alarms (step plan).records = []) (settings : Settings) :
    AlarmsOnFailure ShardedSql.success (plan.generateWith step settings) := by
  rw [generateWith_eq_run]
  exact plan.statementsGenerator.length_alarms_run _ quiet

theorem alarms_readSelectList (clock : Clock) (sql : Text) :
    alarms (Sql.readSelectList clock sql).records = [] := by
  unfold Sql.readSelectList
  cases Sql.selectFields clock sql <;> rfl

theorem alarms_totalsOf
    {step : ShardPlan → List Sql.SelectField → Assignment → Logged (Except Fault Text)}
    {assignment : Assignment} {plan : ShardPlan}
    (quiet : ∀ fields, alarms (step plan fields assignment).records = []) (clock : Clock) :
    alarms (plan.totalsOf step clock assignment).records = [] := by
  have read := alarms_readSelectList clock plan.sql
  unfold totalsOf
  rw [Logged.records_bind, alarms_append, read, List.nil_append]
  cases (Sql.readSelectList clock plan.sql).value with
  | error fault => rfl
  | ok fields =>
      rw [Logged.records_bind, alarms_append, quiet fields, List.nil_append]
      cases (step plan fields assignment).value <;> rfl

theorem alarmsOnFailure_generateTotalsWith
    {step : ShardPlan → List Sql.SelectField → Assignment → Logged (Except Fault Text)}
    {assignment : Assignment} {plan : ShardPlan}
    (quiet : ∀ fields, alarms (step plan fields assignment).records = [])
    (settings : Settings) (clock : Clock) :
    AlarmsOnFailure ShardTotals.success
      (plan.generateTotalsWith step settings clock assignment) := by
  rw [generateTotalsWith_eq_run]
  exact plan.totalsGenerator.length_alarms_run _ (alarms_totalsOf quiet clock)

end ShardPlan

/-- Every generator raises one alarm if it fails and none if it succeeds.  This
holds with its own inner step, the records of which are included, and with any
outcome in the place of the step. -/
theorem alarms_tell_failures :
    (∀ settings plan, AlarmsOnFailure ShardedSql.success (ShardPlan.generate settings plan)) ∧
    (∀ outcome settings plan,
      AlarmsOnFailure ShardedSql.success
        (ShardPlan.generateWith (fun _ => pure outcome) settings plan)) ∧
    (∀ settings clock assignment plan,
      AlarmsOnFailure ShardTotals.success
        (ShardPlan.generateTotals settings clock assignment plan)) ∧
    (∀ outcome settings clock assignment plan,
      AlarmsOnFailure ShardTotals.success
        (ShardPlan.generateTotalsWith (fun _ _ _ => pure outcome) settings clock assignment
          plan)) ∧
    (∀ step settings request,
      AlarmsOnFailure Builder.BuilderCode.success
        (Builder.CodeRequest.generateWith step settings request)) ∧
    (∀ step language code,
      AlarmsOnFailure Builder.RecoveredSql.success
        (Builder.RecoveredSql.recoverWith step language code)) ∧
    (∀ step strict plan,
      AlarmsOnFailure Purge.PurgeProcedure.success
        (Purge.PurgePlan.generateWith step strict plan)) := by
  refine ⟨?_, ?_, ?_, ?_, ?_, ?_, ?_⟩
  · intro settings plan
    exact ShardPlan.alarmsOnFailure_generateWith plan.alarms_statements settings
  · intro outcome settings plan
    exact ShardPlan.alarmsOnFailure_generateWith rfl settings
  · intro settings clock assignment plan
    exact ShardPlan.alarmsOnFailure_generateTotalsWith (fun _ => rfl) settings clock
  · intro outcome settings clock assignment plan
    exact ShardPlan.alarmsOnFailure_generateTotalsWith (fun _ => rfl) settings clock
  · intro step settings request
    rw [Builder.CodeRequest.generateWith_eq_run]
    exact request.generator.length_alarms_run _ rfl
  · intro step language code
    rw [Builder.RecoveredSql.recoverWith, Builder.RecoveredSql.ofCodeWith_eq_run]
    exact (Builder.RecoveredSql.generator _ code).length_alarms_run _ rfl
  · intro step strict plan
    rw [Purge.PurgePlan.generateWith_eq_run]
    exact plan.generator.length_alarms_run _ rfl

end SqlFanout
