import SqlFanout.Text.Basic

/-!
# Statement templates

The declaration of a string builder and the statement that reads it differ from language to language
only in their fixed text and in the order of a few slots.
-/

namespace SqlFanout.Builder

/-- What a template leaves open. -/
inductive Slot where
  | builder
  | variableName
  | finalVariable
  | method
  deriving DecidableEq, Repr

def Slot.name : Slot → Text
  | .builder => "builder"
  | .variableName => "var"
  | .finalVariable => "final_var"
  | .method => "method"

inductive Segment where
  | fixed (text : Text)
  | slot (slot : Slot)
  deriving DecidableEq, Repr

abbrev Template := List Segment

namespace Template

/-- The template as it is shown, with the name of each slot in braces. -/
def source (template : Template) : Text :=
  template.flatMap fun
    | .fixed text => text
    | .slot slot => "\x7b" ++ slot.name ++ "\x7d"

def fill (values : Slot → Text) (template : Template) : Text :=
  template.flatMap fun
    | .fixed text => text
    | .slot slot => values slot

end Template

end SqlFanout.Builder
