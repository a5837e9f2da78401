import NoteTemplates.Failure
import NoteTemplates.Literal.Meaning
import NoteTemplates.Text.Blank

/-!
# Handlers

A tag whose name begins with an at sign names what is to be done when its text is clicked:
a dotted name with arguments in parentheses, or arguments alone. The arguments are a literal
and must be one that can be read.
-/

namespace NoteTemplates
namespace Handler

/-- Whether a character may stand in the name of a handler. -/
def isInName (c : Char) : Bool :=
  c = '.' || Text.isLetterOrNumber c

/-- The arguments in the parameters of a tag; a name alone has none. -/
def arguments (s : Text) : Text :=
  match s.dropWhile isInName with
  | [] => "()"
  | '(' :: rest => if Text.endsWith ")" rest && !rest.contains '\n' then '(' :: rest else s
  | _ => s

/-- Why arguments that were read in parameters are refused. -/
def refusal (read parameters : Text) (e : LiteralError) : MarkupError :=
  let place : Text :=
    if e.isAboutMeaning then Text.quoted parameters
    else Text.quoted read ++ " in " ++ Text.quoted parameters
  .badArguments place e.message

/-- Refuses parameters whose arguments are no literal. -/
def check (parameters : Text) : Except MarkupError Unit :=
  let read := arguments (Text.strip parameters)
  (Literal.check read).mapError (refusal read parameters)

end Handler
end NoteTemplates
