import NoteTemplates.Failure
import NoteTemplates.Text.Blank

/-!
# Path directives

A line whose text begins with `<!-- Path:` tells where a note goes. The first such line
counts; all of them are left out of the note.
-/

namespace NoteTemplates
namespace PathDirective

/-- What a directive begins with. -/
def marker : Text := "<!-- Path:"

/-- What a directive may end with. -/
def ending : Text := "-->"

/-- Whether a line is a directive. -/
def isDirective (line : Text) : Bool :=
  Text.startsWith marker (Text.strip line)

/-- What a directive says between its marker and its ending. -/
def target (line : Text) : Text :=
  Text.strip (Text.dropSuffix ending (Text.strip (Text.dropPrefix marker (Text.strip line))))

/-- What the first directive of a text says; empty if there is none. -/
def ofContent (content : Text) : Except TemplateError Text :=
  match (Text.lines content).find? isDirective with
  | none => .ok []
  | some line =>
    if (target line).isEmpty then .error { kind := .invalidPathSyntax, detail := "empty path" }
    else .ok (target line)

/-- A text without the lines that are directives. -/
def remove (content : Text) : Text :=
  Text.unlines ((Text.lines content).filter fun line => !isDirective line)

end PathDirective
end NoteTemplates
