import SqlFanout.Text.Basic

/-!
# Nesting

Where a scanner stands in a text: how many parentheses are open, and inside which quotes.  Quotes do
not nest and know no escapes; a closing parenthesis without an opening one is passed over.
-/

namespace SqlFanout.Sql

structure Nesting where
  depth : Nat
  quote : Option Char
  deriving DecidableEq, Repr

def isQuote (c : Char) : Bool :=
  c == '\x27' || c == '\x22' || c == '\x60'

namespace Nesting

/-- Outside of all parentheses and quotes. -/
def top : Nesting :=
  ⟨0, none⟩

def isTop (nesting : Nesting) : Bool :=
  nesting.depth == 0 && nesting.quote.isNone

/-- The state behind a character. -/
def step (nesting : Nesting) (c : Char) : Nesting :=
  match nesting.quote with
  | some quote => if c == quote then { nesting with quote := none } else nesting
  | none =>
      if isQuote c then { nesting with quote := some c }
      else if c == '(' then { nesting with depth := nesting.depth + 1 }
      else if c == ')' then { nesting with depth := nesting.depth - 1 }
      else nesting

/-- The state behind a text. -/
def after (nesting : Nesting) (text : Text) : Nesting :=
  text.foldl step nesting

/-- Whether a character that is read in a state lies at top level.  Quotes do not; the outermost
parentheses do. -/
def shows (nesting : Nesting) (c : Char) : Bool :=
  if nesting.quote.isSome || isQuote c then false
  else if c == ')' then nesting.depth - 1 == 0
  else nesting.depth == 0

/-- Marks the characters of a text that lie at top level. -/
def mask (nesting : Nesting) : Text → List Bool
  | [] => []
  | c :: rest => nesting.shows c :: mask (nesting.step c) rest

end Nesting

end SqlFanout.Sql
