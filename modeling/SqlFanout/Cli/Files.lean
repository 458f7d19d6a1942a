import SqlFanout.Text.LineBreak
import SqlFanout.Text.Quoted
import SqlFanout.Text.Utf8

/-!
# Files

The files that a run may look at, by their paths.  Texts are read as UTF-8, with every kind of line end
turned into a line feed.
-/

namespace SqlFanout.Cli

open Text

inductive Entry where
  | file (bytes : List Nat)
  | directory
  deriving DecidableEq, Repr

/-- Entries by path, relative to the directory of the run. -/
abbrev Files := List (Text × Entry)

inductive AccessFault where
  | missing
  | notDirectory
  | isDirectory
  | nameTooLong
  deriving DecidableEq, Repr

/-- Why a text could not be read. -/
inductive ReadFault where
  | access (fault : AccessFault) (path : Text)
  | embeddedNull
  | undecodable (fault : Utf8.DecodeFault)
  deriving DecidableEq, Repr

def AccessFault.description : AccessFault → Text
  | .missing => "[Errno 2] No such file or directory"
  | .notDirectory => "[Errno 20] Not a directory"
  | .isDirectory => "[Errno 21] Is a directory"
  | .nameTooLong => "[Errno 36] File name too long"

def AccessFault.message (fault : AccessFault) (path : Text) : Text :=
  fault.description ++ ": " ++ quoted path

/-- The names along a path; empty names and single dots lead nowhere. -/
def pathNames (path : Text) : List Text :=
  (cutAt '/' path).filter fun name => !name.isEmpty && name != ['.']

/-- The beginning of an absolute path: one slash, or two if there are exactly two. -/
def pathRoot : Text → Text
  | '/' :: '/' :: '/' :: _ => "/"
  | '/' :: '/' :: _ => "//"
  | '/' :: _ => "/"
  | _ => ""

/-- A path without steps that lead nowhere. -/
def normalizePath (path : Text) : Text :=
  let whole := pathRoot path ++ join "/" (pathNames path)
  if whole.isEmpty then "." else whole

/-- The number of bytes that a text is encoded in. -/
def utf8Size (text : Text) : Nat :=
  text.foldl (fun size c => size + c.utf8Size) 0

/-- The greatest size of a name along a path. -/
def maxNameSize : Nat := 255

/-- The greatest size of a whole path. -/
def maxPathSize : Nat := 4095

namespace Files

/-- The entry at the place that names lead to from the directory of the run.  Directories are there as
soon as something is in them. -/
def place? (files : Files) (names : List Text) : Option Entry :=
  let found := files.map fun (path, entry) => (pathNames path, entry)
  match found.lookup names with
  | some entry => some entry
  | none => if found.any (fun (other, _) => names.isPrefixOf other) then some .directory else none

/-- Follows names from a directory.  Nothing is known of what lies outside of the directory of the run,
but there are directories above it. -/
def follow (files : Files) (directory : List Text) : List Text → Except AccessFault Entry
  | [] => .ok .directory
  | name :: names =>
      if name == ".." then
        if directory.isEmpty then
          if names.all (· == "..") then .ok .directory else .error .missing
        else follow files directory.dropLast names
      else
        match files.place? (directory ++ [name]) with
        | some .directory => follow files (directory ++ [name]) names
        | some (.file bytes) => if names.isEmpty then .ok (.file bytes) else .error .notDirectory
        | none => .error (if maxNameSize < utf8Size name then .nameTooLong else .missing)

/-- The entry at a path, which may be among the known ones as it is written. -/
def entry (files : Files) (path : Text) : Except AccessFault Entry :=
  let whole := normalizePath path
  match files.find? fun (other, _) => normalizePath other == whole with
  | some (_, found) => .ok found
  | none =>
      let names := pathNames path
      if maxPathSize < utf8Size whole then .error .nameTooLong
      else if (pathRoot path).isEmpty || names.isEmpty then files.follow [] names
      else .error .missing

def readText (files : Files) (path : Text) : Except ReadFault Text :=
  let shown := normalizePath path
  if path.contains '\x00' then .error .embeddedNull
  else
    match files.entry path with
    | .error fault => .error (.access fault shown)
    | .ok .directory => .error (.access .isDirectory shown)
    | .ok (.file bytes) =>
        match Utf8.decode bytes with
        | .error fault => .error (.undecodable fault)
        | .ok text => .ok (normalizeNewlines text)

end Files

end SqlFanout.Cli
