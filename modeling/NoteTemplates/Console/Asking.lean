import NoteTemplates.Effect
import NoteTemplates.Console.Markup

/-!
# Asking

Questions put to somebody. A question on the console is a text with tags, shown with a colon
and a blank after it, and answered by a line without the white space at its ends. An answer
can be required, or be any line, or be a number between two bounds; a line that will not do
is followed by a notice and the same question. A script answers with the lines of a list, as
they are.
-/

namespace NoteTemplates
namespace Console

open Effect

/-- Prints a text with tags, with a line end behind it. -/
def printLine (s : Text) : Effect Unit := do
  let screen := (← read).screen
  let shown ← settle (Markup.plain screen s)
  print (screen.layOut shown ++ Text.newline)

/-- Prints a text with tags, with a line end behind it, where complaints go. -/
def complainLine (s : Text) : Effect Unit := do
  let screen := (← read).screen
  let shown ← settle (Markup.plain screen s)
  complain (screen.layOut shown ++ Text.newline)

/-- What stands between a question and its answer. -/
def questionEnd : Text := ": "

/-- A question as the console shows it. -/
def question (screen : Screen) (s : Text) : Except Failure Text :=
  (Markup.plain screen s).map fun shown => screen.layOut (shown ++ questionEnd)

/-- What a console says when there is no line left. -/
def exhausted : Failure :=
  .endOfInput "EOF when reading a line"

/-- Leaves the given replies for those who ask next. -/
def leave (replies : List Reply) : Effect Unit :=
  modify fun w => { w with replies }

/--
Shows a question until a line will do. `judge` takes a line without the white space at its
ends and answers with a value, or with nothing if the line will not do.
-/
def askUntil {α : Type} (shown notice : Text) (judge : Text → Except Failure (Option α)) :
    List Reply → Effect α
  | [] => do
    print shown
    throw exhausted
  | .failure f :: replies => do
    leave replies
    print shown
    throw f
  | .line s :: replies => do
    leave replies
    print shown
    match ← settle (judge (Text.strip s)) with
    | some a => return a
    | none => do
      print (notice ++ Text.newline)
      askUntil shown notice judge replies

/-- What is said after an empty line where an answer is required. -/
def requiredNotice : Text := "Input required, please try again."

/-- Takes every line but the empty one. -/
def judgeRequired (answer : Text) : Except Failure (Option Text) :=
  .ok (if answer.isEmpty then none else some answer)

/-- Asks until the answer is not empty. -/
def askRequired (s : Text) : Effect Text := do
  let screen := (← read).screen
  askUntil (← settle (question screen s)) (screen.layOut requiredNotice) judgeRequired
    (← get).replies

/-- Asks once; the answer may be empty. -/
def askLine (s : Text) : Effect Text := do
  let screen := (← read).screen
  askUntil (← settle (question screen s)) [] (fun answer => .ok (some answer)) (← get).replies

/-- What is said after a line that is no number between the bounds. -/
def choiceNotice (low high : Int) : Text :=
  "Please enter a number between " ++ Text.ofInt low ++ " and " ++ Text.ofInt high ++ "."

/-- Passes over a line, for which the bounds must be written. -/
def passOver (low high : Int) : Except Failure (Option (Option Int)) :=
  if Text.isWritable low && Text.isWritable high then .ok none
  else .error (.number .unwritable)

/-- Takes the empty line, and digits that denote a number between the bounds. -/
def judgeChoice (low high : Int) (answer : Text) : Except Failure (Option (Option Int)) :=
  if answer.isEmpty then .ok (some none)
  else if answer.all Text.isDigit then
    match Text.readInt answer with
    | .error e => .error (.number e)
    | .ok n => if low ≤ n ∧ n ≤ high then .ok (some (some n)) else passOver low high
  else passOver low high

/-- Asks for a number between two bounds; an empty answer chooses nothing. -/
def askChoice (s : Text) (low high : Int) : Effect (Option Int) := do
  let screen := (← read).screen
  askUntil (← settle (question screen s)) (screen.layOut (choiceNotice low high))
    (judgeChoice low high) (← get).replies

end Console

/--
Who answers questions: a script, or somebody at the console, with or without an answer required.
-/
inductive Reader where
  | script
  | required
  | line
  deriving DecidableEq, Repr

namespace Reader

/-- Asks a script: the next line as it is. -/
def askScript (question : Text) : Effect Text := do
  modify fun w => { w with asked := w.asked ++ [question] }
  match (← get).replies with
  | [] => throw (.endOfInput [])
  | .failure f :: replies => do
    Console.leave replies
    throw f
  | .line s :: replies => do
    Console.leave replies
    return s

/-- Asks a question and waits for the answer. -/
def ask (r : Reader) (question : Text) : Effect Text :=
  match r with
  | script => askScript question
  | required => Console.askRequired question
  | line => Console.askLine question

end Reader
end NoteTemplates
