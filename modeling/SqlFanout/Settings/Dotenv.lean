import SqlFanout.Keyed
import SqlFanout.Text.Blank
import SqlFanout.Text.Delimited
import SqlFanout.Text.Scan

/-!
# Files of variables

A file binds variables line by line: an optional `export`, a name, an equals sign and a value, which may
be quoted.  Quoted values may span lines; in other values a comment ends the value.  A line that cannot
be read is passed over.  Values may refer to the environment and to variables bound before them.
-/

namespace SqlFanout.Dotenv

open Text

/-- Blanks within a line. -/
def isGap (c : Char) : Bool :=
  isBlank c && c != '\n' && c != '\r'

def isLineEnd (c : Char) : Bool :=
  c == '\n' || c == '\r'

/-- A name, and its value if it has one. -/
structure Binding where
  name : Text
  value : Option Text
  deriving DecidableEq, Repr

/-- The text behind the current line. -/
def afterLine (text : Text) : Text :=
  (text.dropWhile fun c => !isLineEnd c).drop 1

/-- Replaces a backslash and a letter behind it by the character that they stand for. -/
def decodeEscapes (letters : List (Char × Char)) : Text → Text
  | [] => []
  | [c] => [c]
  | c :: d :: rest =>
      match c == '\\', letters.lookup d with
      | true, some meant => meant :: decodeEscapes letters rest
      | _, _ => c :: decodeEscapes letters (d :: rest)

def singleQuoteEscapes : List (Char × Char) :=
  [('\\', '\\'), ('\x27', '\x27')]

def doubleQuoteEscapes : List (Char × Char) :=
  [('\\', '\\'), ('\x27', '\x27'), ('\x22', '\x22'), ('a', '\x07'), ('b', '\x08'),
    ('f', '\x0c'), ('n', '\n'), ('r', '\r'), ('t', '\t'), ('v', '\x0b')]

/-- A value without the comment behind it. -/
def cutComment : Text → Text
  | [] => []
  | c :: rest =>
      if isBlank c && (trimLeft rest).head? == some '#' then [] else c :: cutComment rest

/-- The value behind an equals sign and what follows it. -/
def readValue? (text : Text) : Option (Text × Text) :=
  match text.dropWhile isGap with
  | '\x27' :: body =>
      (readDelimited? '\x27' body).map fun (content, rest) =>
        (decodeEscapes singleQuoteEscapes content, rest)
  | '\x22' :: body =>
      (readDelimited? '\x22' body).map fun (content, rest) =>
        (decodeEscapes doubleQuoteEscapes content, rest)
  | _ =>
      some (trim (cutComment (text.takeWhile fun c => !isLineEnd c)),
        text.dropWhile fun c => !isLineEnd c)

/-- A name and what follows it; a comment has no name. -/
def readName? (text : Text) : Option (Option Text × Text) :=
  match text with
  | '#' :: _ => some (none, text)
  | '\x27' :: body =>
      let name := body.takeWhile (· != '\x27')
      match name, body.dropWhile (· != '\x27') with
      | _ :: _, _ :: rest => some (some name, rest)
      | _, _ => none
  | _ =>
      let ends (c : Char) : Bool := c == '=' || c == '#' || isBlank c
      match text.takeWhile (!ends ·) with
      | [] => none
      | name => some (some name, text.dropWhile (!ends ·))

def afterExport (text : Text) : Text :=
  match afterStart? "export" text with
  | some (c :: rest) => if isGap c then rest.dropWhile isGap else text
  | _ => text

def skipComment (text : Text) : Text :=
  let rest := text.dropWhile isGap
  if rest.head? == some '#' then rest.dropWhile fun c => !isLineEnd c else text

/-- Ends a binding: only a comment may follow on its line. -/
def finish (name : Option Text) (value : Option Text) (text : Text) : Option Binding × Text :=
  let rest := skipComment text
  match rest.dropWhile isGap with
  | [] => (name.map (⟨·, value⟩), [])
  | c :: after => if isLineEnd c then (name.map (⟨·, value⟩), after) else (none, afterLine rest)

/-- The next binding, if the next line holds one, and the text behind it. -/
def readBinding (text : Text) : Option Binding × Text :=
  let body := afterExport (trimLeft text)
  match readName? body with
  | none => (none, afterLine body)
  | some (name, rest) =>
      match rest.dropWhile isGap with
      | '=' :: more =>
          match readValue? more with
          | none => (none, afterLine more)
          | some (value, tail) => finish name (some value) tail
      | tail => finish name none tail

/-- The bindings of a text.  Each step reads at least one character, so the length of the text bounds
the number of steps. -/
def readBindings : Nat → Text → List Binding
  | 0, _ => []
  | _ + 1, [] => []
  | steps + 1, text =>
      match readBinding text with
      | (some binding, rest) => binding :: readBindings steps rest
      | (none, rest) => readBindings steps rest

/-- A reference to a variable in braces behind a dollar sign, with a default behind `:-`. -/
def referenceFinder : Finder (Text × Text) := fun _ text =>
  match text with
  | '$' :: '\x7b' :: body =>
      let name := body.takeWhile fun c => c != '\x7d' && c != ':'
      match body.dropWhile fun c => c != '\x7d' && c != ':' with
      | '\x7d' :: rest => some ((name, []), rest)
      | ':' :: '-' :: more =>
          match more.dropWhile (· != '\x7d') with
          | _ :: rest => some ((name, more.takeWhile (· != '\x7d')), rest)
          | [] => none
      | _ => none
  | _ => none

/-- Values of the bindings in order; later ones see the environment and the earlier ones. -/
def resolve (environment : List (Text × Text)) : List Binding → List (Text × Option Text)
  | [] => []
  | binding :: bindings =>
      let value := binding.value.map fun text =>
        referenceFinder.substitute
          (fun (name, default) => ((environment.reverse.lookup name).getD default)) text
      let extended := environment ++ [(binding.name, value.getD [])]
      (binding.name, value) :: resolve extended bindings

/-- A text without the byte order mark that it may start with. -/
def withoutMark : Text → Text
  | [] => []
  | c :: rest => if c == '\ufeff' then rest else c :: rest

/-- The variables of a file, each with its value if the last line that names it gives one. -/
def resolved (environment : List (Text × Text)) (text : Text) : Keyed (Option Text) :=
  let body := withoutMark text
  Keyed.ofPairs (resolve environment (readBindings body.length body))

end SqlFanout.Dotenv
