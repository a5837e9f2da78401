import NoteTemplates.Text.Basic

/-!
# Prompts

A prompt is a question between `<prompt>` and `</prompt>` on one line. A text is cut at its
prompts from left to right; the questions are read off the cut, and answers are filled in
by position. Answers are not looked at again.
-/

namespace NoteTemplates
namespace Prompt

/-- What a prompt begins with. -/
def openTag : Text := "<prompt>"

/-- What a prompt ends with. -/
def closeTag : Text := "</prompt>"

/-- What comes before the first closing tag of the line, if there is one. -/
def beforeClose? : Text → Option Text
  | [] => none
  | c :: s =>
    if Text.startsWith closeTag (c :: s) then some []
    else if c = '\n' then none
    else (beforeClose? s).map (c :: ·)

/-- The question of the prompt that a text begins with. -/
def question? (s : Text) : Option Text :=
  (Text.afterPrefix? openTag s).bind beforeClose?

/-- A prompt as it stands in a text. -/
def write (question : Text) : Text :=
  openTag ++ question ++ closeTag

/-- The prompt that a text begins with, and how many characters it has beyond its first. -/
def find (s : Text) : Option (Text × Nat) :=
  (question? s).map fun q => (q, (write q).length - 1)

/-- A text cut at its prompts. -/
def cut (s : Text) : List (Text.Piece Text) :=
  Text.cut find 0 s

/-- The questions of the pieces of a text. -/
def asked : List (Text.Piece Text) → List Text
  | [] => []
  | .plain _ :: pieces => asked pieces
  | .found q :: pieces => q :: asked pieces

/-- The questions of a text, in their order. -/
def questions (s : Text) : List Text :=
  asked (cut s)

/-- Pieces put together, the prompts replaced by answers as long as there are any. -/
def fill : List (Text.Piece Text) → List Text → Text
  | [], _ => []
  | .plain c :: pieces, answers => c :: fill pieces answers
  | .found _ :: pieces, answer :: answers => answer ++ fill pieces answers
  | .found q :: pieces, [] => write q ++ fill pieces []

/-- A text whose first prompts are replaced by the answers, one by one. -/
def answer (s : Text) (answers : List Text) : Text :=
  fill (cut s) answers

end Prompt
end NoteTemplates
