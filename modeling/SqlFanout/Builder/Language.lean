import SqlFanout.Builder.Template
import SqlFanout.Fault
import SqlFanout.Text.Quoted
import SqlFanout.Text.Case
import SqlFanout.Text.Scan

/-!
# Host languages

The languages in which a statement is assembled by a string builder, and how each of them declares the
builder, appends to it and reads it.
-/

namespace SqlFanout.Builder

open Text

inductive Language where
  | java
  | csharp
  | kotlin
  | scala
  | groovy
  deriving DecidableEq, Repr

/-- The shape of a builder's declaration: a word, the name of the variable, an equals sign and the
words that create the builder, if they are looked at. -/
structure DeclarationShape where
  opener : Text
  creator : List Text
  deriving DecidableEq, Repr

namespace DeclarationShape

/-- The shape as a regular expression. -/
def pattern (shape : DeclarationShape) : Text :=
  let creation : Text :=
    if shape.creator.isEmpty then [] else "\\s*" ++ join "\\s+" shape.creator
  shape.opener ++ "\\s+(\\w+)\\s*=" ++ creation

/-- What follows words with blanks between them, compared letter by letter. -/
def afterWords? : List Text → Text → Option Text
  | [], text => some text
  | [word], text => afterStart? word text
  | word :: words, text =>
      match afterStart? word text with
      | none => none
      | some rest =>
          match afterBlanks? rest with
          | none => none
          | some next => afterWords? words next

/-- Finds a declaration; the value is the name of the variable. -/
def finder (shape : DeclarationShape) : Finder Text := fun _ text =>
  match afterStart? shape.opener text with
  | none => none
  | some rest =>
      match afterBlanks? rest with
      | none => none
      | some body =>
          let name := body.takeWhile isWord
          match name, trimLeft (body.dropWhile isWord) with
          | _ :: _, '=' :: after =>
              if shape.creator.isEmpty then some (name, after)
              else (afterWords? shape.creator (trimLeft after)).map fun tail => (name, tail)
          | _, _ => none

end DeclarationShape

structure Dialect where
  displayName : Text
  builderClass : Text
  readMethod : Text
  fileExtension : Text
  commentMark : Text
  appendMethod : Text
  declaration : Template
  finalization : Template
  statementEnd : Text
  declarationShape : DeclarationShape
  deriving DecidableEq, Repr

namespace Language

def all : List Language :=
  [java, csharp, kotlin, scala, groovy]

/-- The word that selects a language. -/
def keyword : Language → Text
  | java => "java"
  | csharp => "csharp"
  | kotlin => "kotlin"
  | scala => "scala"
  | groovy => "groovy"

def constant : Language → Text
  | java => "JAVA"
  | csharp => "CSHARP"
  | kotlin => "KOTLIN"
  | scala => "SCALA"
  | groovy => "GROOVY"

def read (text : Text) : Except Fault Language :=
  match all.find? fun language => language.keyword == text with
  | some language => .ok language
  | none => .error (.foreign (quoted text ++ " is not a valid CodeLanguage"))

/-- A declaration that names the type of the variable. -/
def typedDeclaration : Template :=
  [.slot .builder, .fixed " ", .slot .variableName, .fixed " = new ", .slot .builder, .fixed "();"]

/-- A declaration by a keyword, with the words before the name of the class. -/
def untypedDeclaration (keyword creation : Text) : Template :=
  [.fixed keyword, .fixed " ", .slot .variableName, .fixed " = ", .fixed creation, .slot .builder,
    .fixed "()"]

/-- The statement that reads the builder into a variable. -/
def finalStatement (opener ending : Text) : Template :=
  [.fixed opener, .fixed " ", .slot .finalVariable, .fixed " = ", .slot .variableName, .fixed ".",
    .slot .method, .fixed ending]

def dialect : Language → Dialect
  | java =>
      { displayName := "Java", builderClass := "StringBuffer", readMethod := "toString()",
        fileExtension := "java", commentMark := "//", appendMethod := "append",
        declaration := typedDeclaration, finalization := finalStatement "String" ";",
        statementEnd := ";", declarationShape := ⟨"StringBuffer", []⟩ }
  | csharp =>
      { displayName := "C#", builderClass := "StringBuilder", readMethod := "ToString()",
        fileExtension := "cs", commentMark := "//", appendMethod := "Append",
        declaration := typedDeclaration, finalization := finalStatement "string" ";",
        statementEnd := ";", declarationShape := ⟨"StringBuilder", []⟩ }
  | kotlin =>
      { displayName := "Kotlin", builderClass := "StringBuilder", readMethod := "toString()",
        fileExtension := "kt", commentMark := "//", appendMethod := "append",
        declaration := untypedDeclaration "val" "", finalization := finalStatement "val" "",
        statementEnd := "", declarationShape := ⟨"val", ["StringBuilder"]⟩ }
  | scala =>
      { displayName := "Scala", builderClass := "StringBuilder", readMethod := "toString()",
        fileExtension := "scala", commentMark := "//", appendMethod := "append",
        declaration := untypedDeclaration "val" "new ", finalization := finalStatement "val" "",
        statementEnd := "", declarationShape := ⟨"val", ["new", "StringBuilder"]⟩ }
  | groovy =>
      { displayName := "Groovy", builderClass := "StringBuilder", readMethod := "toString()",
        fileExtension := "groovy", commentMark := "//", appendMethod := "append",
        declaration := untypedDeclaration "def" "new ", finalization := finalStatement "def" "",
        statementEnd := "", declarationShape := ⟨"def", ["new", "StringBuilder"]⟩ }

/-- Finds a language by its keyword, its constant or its display name, in any case. -/
def ofName (name : Text) : Except Fault Language :=
  let key := lower (trim name)
  match all.find? fun language =>
      key == language.keyword || key == lower language.constant
        || key == lower language.dialect.displayName with
  | some language => .ok language
  | none => .error (.foreign ("지원하지 않는 언어입니다: " ++ name))

end Language

end SqlFanout.Builder
