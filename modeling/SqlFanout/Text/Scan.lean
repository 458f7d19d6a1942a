import SqlFanout.Text.Basic

/-!
# Leftmost scans

A finder looks for something at the beginning of a text and sees the character before it.  A scan
walks a text from left to right, takes the first find, goes on behind it, and cuts the text into
finds and the single characters between them.
-/

namespace SqlFanout.Text

/-- Given the character before a text and the text, what is found at its beginning and the rest. -/
abbrev Finder (α : Type) := Option Char → Text → Option (α × Text)

/-- A stretch of a scanned text: a character that starts no find, or a find and its text. -/
inductive Piece (α : Type) where
  | plain (c : Char)
  | found (value : α) (text : Text)

namespace Finder

variable {α : Type}

/-- Scans a text whose first `skip` characters belong to a find that has been reported. -/
def scanFrom (find : Finder α) : Nat → Option Char → Text → List (Piece α)
  | _, _, [] => []
  | skip + 1, _, c :: rest => scanFrom find skip (some c) rest
  | 0, before, c :: rest =>
      match find before (c :: rest) with
      | some (value, after) =>
          let size := (c :: rest).length - after.length
          .found value ((c :: rest).take size) :: scanFrom find (size - 1) (some c) rest
      | none => .plain c :: scanFrom find 0 (some c) rest

def scan (find : Finder α) (text : Text) : List (Piece α) :=
  scanFrom find 0 none text

/-- The finds in order of their appearance. -/
def findAll (find : Finder α) (text : Text) : List α :=
  (scan find text).filterMap fun
    | .found value _ => some value
    | .plain _ => none

/-- Replaces every find. -/
def substitute (find : Finder α) (replacement : α → Text) (text : Text) : Text :=
  (scan find text).flatMap fun
    | .found value _ => replacement value
    | .plain c => [c]

/-- The first find of a text. -/
def first? (find : Finder α) (before : Option Char) : Text → Option α
  | [] => none
  | c :: rest =>
      match find before (c :: rest) with
      | some (value, _) => some value
      | none => first? find (some c) rest

end Finder

/-- Finds a fixed text. -/
def literalFinder (literal : Text) : Finder Unit := fun _ text =>
  (afterStart? literal text).map fun rest => ((), rest)

/-- Replaces every occurrence of a text that is not empty, from left to right. -/
def replaceAll (old new : Text) (text : Text) : Text :=
  (literalFinder old).substitute (fun _ => new) text

end SqlFanout.Text
