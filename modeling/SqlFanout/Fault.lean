import SqlFanout.Text.Basic

/-!
# Faults

A step of a generator either returns a value or stops with a `Fault`.  Faults of this library carry a
kind of their own; a foreign fault comes from somewhere else and counts as unexpected.  Messages that
reach a caller are stripped of control characters.
-/

namespace SqlFanout

/-- How a failure is reported to the caller. -/
inductive FaultKind where
  | configuration
  | parse
  | unexpected
  deriving DecidableEq, Repr

def FaultKind.name : FaultKind → Text
  | .configuration => "configuration"
  | .parse => "parse"
  | .unexpected => "unexpected"

/-- What stopped a step: a broken rule of the configuration, a text of the wrong shape, a fault of the
library without a finer kind, a special case of one of these that reports a kind of its own, or
something foreign. -/
inductive Fault where
  | configuration (message : Text)
  | parse (message : Text)
  | general (message : Text)
  | special (ofParse : Bool) (kind : FaultKind) (message : Text)
  | foreign (message : Text)
  deriving DecidableEq, Repr

namespace Fault

def message : Fault → Text
  | configuration message => message
  | parse message => message
  | general message => message
  | special _ _ message => message
  | foreign message => message

def kind : Fault → FaultKind
  | configuration _ => .configuration
  | parse _ => .parse
  | general _ => .unexpected
  | special _ kind _ => kind
  | foreign _ => .unexpected

/-- Faults that the library raises itself. -/
def isOwn : Fault → Bool
  | foreign _ => false
  | _ => true

/-- Texts of the wrong shape, special cases included. -/
def isParse : Fault → Bool
  | parse _ => true
  | special ofParse _ _ => ofParse
  | _ => false

end Fault

/-- The characters below the space, and the delete character. -/
def isControl (c : Char) : Bool :=
  c.toNat < 0x20 || c.toNat == 0x7f

/-- A message without control characters. -/
def sanitize (message : Text) : Text :=
  message.filter fun c => !isControl c

end SqlFanout
