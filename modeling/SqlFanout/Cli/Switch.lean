import SqlFanout.Text.Blank
import SqlFanout.Text.Quoted

/-!
# Switches

A command is given a list of arguments.  Those that name a switch, in full or by a beginning that no
other switch shares, act on the options of the command; a switch may take the argument behind it, or
the text behind an equals sign, as its value.  Everything else is left over.
-/

namespace SqlFanout.Cli

open Text

/-- Why a command line ends without a command being run. -/
inductive Halt where
  | help
  | usage (message : Text)
  deriving DecidableEq, Repr

/-- What a switch does to the options `σ` of a command. -/
inductive Action (σ : Type) where
  | help
  | flag (set : σ → σ)
  | value (read : Text → Except Text (σ → σ))

structure Switch (σ : Type) where
  names : List Text
  action : Action σ

namespace Switch

variable {σ : Type}

def label (switch : Switch σ) : Text :=
  join "/" switch.names

def helpSwitch : Switch σ :=
  ⟨["-h", "--help"], .help⟩

def flag (name : Text) (set : σ → σ) : Switch σ :=
  ⟨[name], .flag set⟩

def text (name : Text) (set : Text → σ → σ) : Switch σ :=
  ⟨[name], .value fun value => .ok (set value)⟩

def integer (name : Text) (set : Int → σ → σ) : Switch σ :=
  ⟨[name], .value fun value =>
    match readInt? value with
    | some number => .ok (set number)
    | none => .error ("invalid int value: " ++ quoted value)⟩

/-- The complaint about a value that is none of the choices. -/
def invalidChoice (choices : List Text) (value : Text) : Text :=
  "invalid choice: " ++ quoted value ++ " (choose from " ++ join ", " (choices.map quoted) ++ ")"

def choice {α : Type} (name : Text) (choices : List (Text × α)) (set : α → σ → σ) : Switch σ :=
  ⟨[name], .value fun value =>
    match choices.lookup value with
    | some found => .ok (set found)
    | none => .error (invalidChoice (choices.map (·.1)) value)⟩

end Switch

/-- An argument as it is understood. -/
inductive Token (σ : Type) where
  | word (text : Text)
  | divider
  | switch (switch : Switch σ) (attached : Option Text)
  | unknown (text : Text)

variable {σ : Type}

/-- A minus sign and digits, with at most one point before the last ones. -/
def isNegativeNumber : Text → Bool
  | '-' :: body =>
      let digits := if body.getLast? == some '\n' then body.dropLast else body
      let fraction := (digits.dropWhile isDecimal).drop 1
      (!digits.isEmpty && digits.all isDecimal)
        || ((digits.dropWhile isDecimal).head? == some '.' && !fraction.isEmpty
          && fraction.all isDecimal)
  | _ => false

/-- The text up to the first equals sign and the text behind it, if there is one. -/
def cutAtEquals (text : Text) : Text × Option Text :=
  match text.dropWhile (· != '=') with
  | [] => (text, none)
  | _ :: rest => (text.takeWhile (· != '='), some rest)

/-- The value that a text attached to a switch of the given name stands for.  Behind a short name the
same letter may be repeated, and repetitions are no part of a value. -/
def attachedValue? : Text → Text → Option Text
  | ['-', letter], c :: rest =>
      match (c :: rest).dropWhile (· == letter) with
      | [] => none
      | value => some value
  | _, attached => some attached

/-- Switches that an argument may abbreviate, by name, with the value attached to the argument. -/
def candidates (switches : List (Switch σ)) (argument : Text) :
    List (Text × Switch σ × Option Text) :=
  let named := switches.flatMap fun switch => switch.names.map fun name => (name, switch)
  if ("--" : Text).isPrefixOf argument then
    let (start, attached) := cutAtEquals argument
    named.filterMap fun (name, switch) =>
      if start.isPrefixOf name then some (name, switch, attached) else none
  else
    named.filterMap fun (name, switch) =>
      if name == argument.take 2 then some (name, switch, attachedValue? name (argument.drop 2))
      else if argument.isPrefixOf name then some (name, switch, none)
      else none

/-- Looks for a switch of exactly the given name. -/
def exactly? (switches : List (Switch σ)) (name : Text) : Option (Switch σ) :=
  switches.find? fun switch => switch.names.contains name

/-- The switch that an argument names in full, before an equals sign if there is one. -/
def named? (switches : List (Switch σ)) (argument : Text) : Option (Token σ) :=
  match exactly? switches argument, cutAtEquals argument with
  | some switch, _ => some (.switch switch none)
  | none, (start, some attached) =>
      (exactly? switches start).map fun switch => .switch switch (attachedValue? start attached)
  | none, (_, none) => none

/-- Understands an argument.  A text that starts with a dash is no word unless it is the dash alone,
is a negative number or contains a space. -/
def classify (switches : List (Switch σ)) (argument : Text) : Except Halt (Token σ) :=
  match argument with
  | '-' :: _ :: _ =>
      match named? switches argument with
      | some token => .ok token
      | none =>
          match candidates switches argument with
          | [(_, switch, attached)] => .ok (.switch switch attached)
          | [] =>
              if isNegativeNumber argument || argument.contains ' ' then .ok (.word argument)
              else .ok (.unknown argument)
          | found =>
              .error (.usage ("ambiguous option: " ++ argument ++ " could match "
                ++ join ", " (found.map (·.1))))
  | _ => .ok (.word argument)

/-- Understands all arguments; behind a double dash there are only words. -/
def tokens (switches : List (Switch σ)) : List Text → Except Halt (List (Token σ))
  | [] => .ok []
  | argument :: rest =>
      if argument == "--" then .ok (.divider :: rest.map .word)
      else
        match classify switches argument with
        | .error halt => .error halt
        | .ok token => (tokens switches rest).map (token :: ·)

def complaint (switch : Switch σ) (message : Text) : Halt :=
  .usage ("argument " ++ switch.label ++ ": " ++ message)

def ignored (switch : Switch σ) (attached : Text) : Halt :=
  complaint switch ("ignored explicit argument " ++ quoted attached)

/-- Acts on the options by a switch that takes no value. -/
def applyPlain (switch : Switch σ) (attached : Option Text) (options : σ) (set : σ → σ) :
    Except Halt σ :=
  match attached with
  | some text => .error (ignored switch text)
  | none => .ok (set options)

/-- A double dash that is attached to a switch leaves its value empty. -/
def withoutDivider (attached : Text) : Text :=
  if attached == "--" then [] else attached

def applyValue (switch : Switch σ) (read : Text → Except Text (σ → σ)) (value : Text)
    (options : σ) : Except Halt σ :=
  match read value with
  | .ok set => .ok (set options)
  | .error message => .error (complaint switch message)

/-- Acts on the options by the tokens in order, and returns what is left over. -/
def consume (options : σ) : List (Token σ) → Except Halt (σ × List Text)
  | [] => .ok (options, [])
  | .word text :: rest => (consume options rest).map fun (found, left) => (found, text :: left)
  | .unknown text :: rest => (consume options rest).map fun (found, left) => (found, text :: left)
  | .divider :: rest => (consume options rest).map fun (found, left) => (found, "--" :: left)
  | .switch switch attached :: rest =>
      match switch.action with
      | .help =>
          match attached with
          | some text => .error (ignored switch text)
          | none => .error .help
      | .flag set =>
          match applyPlain switch attached options set with
          | .error halt => .error halt
          | .ok changed => consume changed rest
      | .value read =>
          match attached with
          | some text =>
              match applyValue switch read (withoutDivider text) options with
              | .error halt => .error halt
              | .ok changed => consume changed rest
          | none =>
              match rest with
              | .word text :: others =>
                  match applyValue switch read text options with
                  | .error halt => .error halt
                  | .ok changed => consume changed others
              | _ => .error (complaint switch "expected one argument")

/-- Reads the arguments of a command into its options. -/
def readOptions (switches : List (Switch σ)) (defaults : σ) (arguments : List Text) :
    Except Halt (σ × List Text) :=
  let known := Switch.helpSwitch :: switches
  match tokens known arguments with
  | .error halt => .error halt
  | .ok found => consume defaults found

end SqlFanout.Cli
