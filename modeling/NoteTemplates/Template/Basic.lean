import NoteTemplates.Path
import NoteTemplates.Template.Filename
import NoteTemplates.Template.PathDirective
import NoteTemplates.Template.Variable

/-!
# Templates

A template is a file: what its name says, its text, and what its text declares. Reading a
template looks at the name first, then at the path directive, then at the variables, and
reports the first thing that is wrong.
-/

namespace NoteTemplates

/--
A template. `target` says where its notes go and is empty if nothing says so; `builtIns` are
the built-in values of the latest rendering.
-/
structure Template where
  filename : Text
  priority : Int
  category : Text
  name : Text
  body : Text
  target : Text := []
  declared : List Variable := []
  questions : List Text := []
  builtIns : Bindings := []
  deriving DecidableEq, Repr

namespace Template

/-- Whether a template says where its notes go. -/
def hasTarget (t : Template) : Bool :=
  !t.target.isEmpty

/-- The category and the name. -/
def displayName (t : Template) : Text :=
  t.category ++ "/" ++ t.name

/-- The file name without its ending. -/
def stem (t : Template) : Text :=
  Text.dropSuffix Filename.suffix t.filename

/-- Reads a template from the path of its file and the text in it. -/
def parse (path content : Text) : Except Failure Template := do
  let filename := (Path.ofText path).name
  let parts ← Filename.ofText filename
  let target ← (PathDirective.ofContent content).mapError Failure.template
  let declared ← (Variable.ofContent content).mapError fun e =>
    Failure.template { e.withTemplate filename with cause := some .unattributed }
  return {
    filename
    priority := parts.priority
    category := parts.category
    name := parts.name
    body := content
    target
    declared
    questions := Prompt.questions content }

end Template
end NoteTemplates
