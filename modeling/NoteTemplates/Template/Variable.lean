import NoteTemplates.Failure
import NoteTemplates.Template.Prompt

/-!
# Variables

A line declares a variable if it begins with a name of ASCII letters, digits and low lines,
then has an equals sign and a prompt, with nothing but ASCII white space around the sign.
No name may be declared twice.
-/

namespace NoteTemplates

/-- A variable of a template and the question that asks for its value. -/
structure Variable where
  name : Text
  question : Text
  deriving DecidableEq, Repr

namespace Variable

/-- Whether a character may stand in a name. -/
def isNameChar (c : Char) : Bool :=
  c.isAlphanum || c = '_'

/-- The variable that a line declares. -/
def ofLine? (line : Text) : Option Variable :=
  let name := line.takeWhile isNameChar
  if name.isEmpty then none
  else
    match (line.dropWhile isNameChar).dropWhile Text.isAsciiBlank with
    | '=' :: rest =>
      (Prompt.question? (rest.dropWhile Text.isAsciiBlank)).map fun question =>
        { name, question }
    | _ => none

/-- The variables that the lines of a text declare, in their order. -/
def declared (content : Text) : List Variable :=
  (Text.lines content).filterMap ofLine?

/-- The first name that a declaration repeats. -/
def repeated? : List Text → List Variable → Option Text
  | _, [] => none
  | seen, v :: vs => if v.name ∈ seen then some v.name else repeated? (v.name :: seen) vs

/-- The variables of a text, if no name is declared twice. -/
def ofContent (content : Text) : Except TemplateError (List Variable) :=
  match repeated? [] (declared content) with
  | some name => .error { kind := .variableConflict, detail := name }
  | none => .ok (declared content)

end Variable
end NoteTemplates
