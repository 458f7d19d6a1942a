import SqlFanout.Text.Case

/-!
# Journals

Computations that report what they do return their value together with the records they wrote, in
order.  A threshold decides which records are kept.
-/

namespace SqlFanout

/-- Severities in increasing order. -/
inductive Severity where
  | debug
  | info
  | warning
  | error
  | critical
  deriving DecidableEq, Repr

namespace Severity

def rank : Severity → Nat
  | debug => 10
  | info => 20
  | warning => 30
  | error => 40
  | critical => 50

def name : Severity → Text
  | debug => "DEBUG"
  | info => "INFO"
  | warning => "WARNING"
  | error => "ERROR"
  | critical => "CRITICAL"

/-- The threshold that a name stands for, in any case.  The name of no threshold leaves the decision
to the surroundings, which keep warnings. -/
def ofName? (text : Text) : Option Severity :=
  [(("DEBUG" : Text), debug), ("INFO", info), ("WARNING", warning), ("WARN", warning),
    ("ERROR", error), ("CRITICAL", critical), ("FATAL", critical), ("NOTSET", warning)].lookup
    (Text.upper text)

end Severity

/-- The part of the program that wrote a record. -/
inductive Author where
  | suffixes
  | tables
  | selectList
  | sharding
  | totals
  | builder
  | recovery
  | purge
  deriving DecidableEq, Repr

def Author.name : Author → Text
  | .suffixes => "sqlshard.engine.suffix_generator"
  | .tables => "sqlshard.engine.sql_parser"
  | .selectList => "sqlshard.engine.select_fields"
  | .sharding => "sqlshard.engine.sharding"
  | .totals => "sqlshard.engine.statistics"
  | .builder => "sqlshard.engine.code_generator"
  | .recovery => "sqlshard.engine.reverse_parser"
  | .purge => "sqlshard.engine.batch_delete"

structure Record where
  severity : Severity
  author : Author
  message : Text
  deriving DecidableEq, Repr

/-- A value and the records written on the way to it. -/
structure Logged (α : Type) where
  records : List Record
  value : α
  deriving Repr

namespace Logged

variable {α β : Type}

instance : Monad Logged where
  pure value := ⟨[], value⟩
  bind step next :=
    let later := next step.value
    ⟨step.records ++ later.records, later.value⟩

@[simp] theorem records_pure (value : α) : (pure value : Logged α).records = [] := rfl

@[simp] theorem value_pure (value : α) : (pure value : Logged α).value = value := rfl

@[simp] theorem records_bind (step : Logged α) (next : α → Logged β) :
    (step >>= next).records = step.records ++ (next step.value).records := rfl

@[simp] theorem value_bind (step : Logged α) (next : α → Logged β) :
    (step >>= next).value = (next step.value).value := rfl

def write (severity : Severity) (author : Author) (message : Text) : Logged Unit :=
  ⟨[⟨severity, author, message⟩], ()⟩

def debug (author : Author) (message : Text) : Logged Unit :=
  write .debug author message

def warning (author : Author) (message : Text) : Logged Unit :=
  write .warning author message

def error (author : Author) (message : Text) : Logged Unit :=
  write .error author message

end Logged

/-- Whether a record passes a threshold. -/
def Record.passes (threshold : Severity) (record : Record) : Bool :=
  threshold.rank ≤ record.severity.rank

end SqlFanout
