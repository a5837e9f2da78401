import NoteTemplates.Console.Asking
import NoteTemplates.Catalog.Loading
import NoteTemplates.Materialization
import NoteTemplates.Template.Rendering

/-!
# Notebooks

A notebook is what the settings point to: a directory of notes and one of templates. The
templates can be loaded and found, what they ask for can be collected, they can be rendered
and written as notes, and their files can be made, edited and deleted.
-/

namespace NoteTemplates

/-- The settings, who answers the questions of templates, and who confirms a deletion. -/
structure Notebook where
  settings : Settings
  reader : Reader := .required
  confirmer : Reader := .line
  deriving DecidableEq, Repr

namespace Notebook

open Effect

variable (book : Notebook)

/-- The directory of the templates. -/
def templatesPath : Effect Path := do
  let around ← read
  settle (book.settings.templatesPath around.environment around.directory)

/-- The editor command that the settings and the environment give. -/
def editor : Effect (Option Text) :=
  return book.settings.resolvedEditor (← read).environment

/-- The catalog, and warnings about files that are left out. -/
def load : Effect (List Template × List Text) :=
  Catalog.load book.settings

/-- The template that a query names. -/
def find (query : Text) : Effect Template := do
  let (templates, _) ← book.load
  settle ((Catalog.find templates query).mapError Failure.template)

/-- The values of variables, asked one after the other. -/
def askVariables (r : Reader) : List Variable → Effect Bindings
  | [] => return []
  | v :: vs => do
    let value ← r.ask v.question
    return (v.name, value) :: (← askVariables r vs)

/-- The answers to questions, asked one after the other. -/
def askQuestions (r : Reader) : List Text → Effect (List Text)
  | [] => return []
  | question :: questions => do
    let answer ← r.ask question
    return answer :: (← askQuestions r questions)

/-- Asks for the variables of a template, then for its prompts. -/
def collect (t : Template) : Effect (Bindings × List Text) := do
  let values ← askVariables book.reader t.declared
  note .debug .questions "Collected variable values" [("count", .count values.length)]
  let answers ← askQuestions book.reader t.questions
  note .debug .questions "Collected prompt answers" [("count", .count answers.length)]
  return (values, answers)

/-- The note of a template and where it goes, both for one moment. -/
def render (t : Template) (values : Bindings) (answers : List Text) (now : Option Moment) :
    Effect (Text × Path) := do
  let around ← read
  let now := now.getD around.clock
  let base ← settle (book.settings.basePath around.environment around.directory)
  let (body, t) := t.renderBody around.environment around.directory values answers base now
  modify fun w => { w with sample := some t.builtIns }
  let body ← settle body
  let (target, t) := t.renderTarget around.environment around.directory values base now
  modify fun w => { w with sample := some t.builtIns }
  return (body, ← settle target)

/-- Asks for what a template needs and renders it: the note and where it goes. -/
def prepare (t : Template) (now : Option Moment) : Effect (Text × Path) := do
  if !t.hasTarget then
    throw (.template { kind := .noTargetPath, template := some t.filename })
  note .info .notebook "Creating note from template" [("template", .text t.filename)]
  let (values, answers) ← book.collect t
  book.render t values answers now

/-- Prepares the note of a template, writes it and may open it. -/
def createNote (t : Template) (openEditor calledOff : Bool) (now : Option Moment) :
    Effect Path := do
  let (content, target) ← book.prepare t now
  if openEditor then
    Materialization.createAndOpen content target (← book.editor) calledOff
  else Materialization.create content target calledOff

/-- The text of a new template with a name. -/
def starter (name : Text) : Text :=
  let title := name.map fun c => if c = '-' then ' ' else c
  "<!-- Path: " ++ BuiltIns.baseToken ++ "/" ++ name ++ "/" ++ BuiltIns.dateToken ++
    ".md -->\n# " ++ title ++ " - " ++ BuiltIns.dateToken ++
    "\n\n## Summary\n\n<prompt>What is this note about?</prompt>\n\n## Notes\n\n"

/-- Whether a new template may have a priority, a category and a name. -/
def allowed (name : Text) (priority : Int) (category : Text) : Bool :=
  0 ≤ priority && '-' ∉ category && !(Text.strip name).isEmpty && '/' ∉ name && '\\' ∉ name

/-- The file name of a new template, if it may be made of a priority, a category and a name. -/
def newFilename (name : Text) (priority : Int) (category : Text) : Except Failure Text :=
  let filename := Filename.assemble priority category name
  if !Text.isWritable priority then .error (.number .unwritable)
  else if !allowed name priority category then
    .error (.template { kind := .invalidFilename, detail := filename })
  else (Filename.ofText filename).map fun _ => filename

/-- Writes a new template and may open it. -/
def scaffold (name : Text) (priority : Int) (category : Text) (openEditor : Bool) :
    Effect Path := do
  let filename ← settle (newFilename name priority category)
  let created ←
    Materialization.create (starter name) ((← book.templatesPath).child filename) false
  if openEditor then Editor.openFile created.toText (← book.editor)
  return created

/-- The path of a template's file. -/
def pathOf (t : Template) : Effect Path := do
  return (← book.templatesPath).child t.filename

/-- Opens the file of a template. -/
def edit (query : Text) : Effect Path := do
  let t ← book.find query
  let path ← book.pathOf t
  Editor.openFile path.toText (← book.editor)
  return path

/-- The question whether to delete a template. -/
def deleteQuestion (t : Template) : Text :=
  "Delete template '" ++ t.displayName ++ "'? (y/N)"

/-- Whether an answer is a yes. -/
def isYes (answer : Text) : Bool :=
  let answer := Text.strip answer
  answer = "y" || answer = "Y"

/-- Deletes the file of a template if that is confirmed; whether it did. -/
def delete (query : Text) : Effect Bool := do
  let t ← book.find query
  let path ← book.pathOf t
  let answer ← book.confirmer.ask (deleteQuestion t)
  if !isYes answer then
    note .info .notebook "Template deletion declined" [("template", .text t.filename)]
    return false
  Materialization.reporting .deleteFailed path (Disk.remove path.toText)
  note .info .notebook "Template deleted" [("path", .text path.toText)]
  return true

end Notebook
end NoteTemplates
