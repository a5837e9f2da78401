import NoteTemplates.Template.Basic
import NoteTemplates.Template.BuiltIns

/-!
# Rendering

Turning a template into a note. Named tokens are replaced first, each in the whole text and
one after the other, then the built-in tokens, then the prompts by position; at last the
path directives are left out. Where the note goes is rendered from names and built-in
values only.
-/

namespace NoteTemplates

/-- The token of a variable. -/
def Variable.token (name : Text) : Text :=
  "\x7b$" ++ name ++ "\x7d"

namespace Template

/-- Every token replaced by its value, one token after the other. -/
def replaceTokens (content : Text) (values : Bindings) : Text :=
  values.foldl (fun s (token, value) => Text.replaceAll token value s) content

/-- The tokens of variables replaced, then the built-in tokens; others stay. -/
def substitute (content : Text) (values builtIns : Bindings) : Text :=
  replaceTokens (replaceTokens content (values.map fun (name, v) => (Variable.token name, v)))
    builtIns

/-- The note before its path directives are left out. -/
def draft (t : Template) (values : Bindings) (answers : List Text) (builtIns : Bindings) : Text :=
  Prompt.answer (substitute t.body values builtIns) answers

/-- The note. -/
def note (t : Template) (values : Bindings) (answers : List Text) (builtIns : Bindings) : Text :=
  PathDirective.remove (draft t values answers builtIns)

/-- Where the note goes, in text. -/
def targetText (t : Template) (values builtIns : Bindings) : Text :=
  substitute t.target values builtIns

/-- The template after its built-in values were worked out anew; none are left if that failed. -/
def refreshed (t : Template) (builtIns : Except Failure Bindings) : Template :=
  { t with builtIns := builtIns.toOption.getD [] }

/-- The note of a template, and the template with the built-in values used. -/
def renderBody (t : Template) (environment : Environment) (directory : Path)
    (values : Bindings) (answers : List Text) (base : Path) (now : Moment) :
    Except Failure Text × Template :=
  let builtIns := BuiltIns.resolve environment directory base now
  (builtIns.map (t.note values answers), t.refreshed builtIns)

/-- Where the note of a template goes, and the template with the built-in values used. -/
def renderTarget (t : Template) (environment : Environment) (directory : Path)
    (values : Bindings) (base : Path) (now : Moment) :
    Except Failure Path × Template :=
  if t.hasTarget then
    let builtIns := BuiltIns.resolve environment directory base now
    (builtIns.bind fun b => Path.expandHome environment (t.targetText values b),
     t.refreshed builtIns)
  else (.error (.template { kind := .noTargetPath }), t)

end Template
end NoteTemplates
