import NoteTemplates.Literal.Grammar
import NoteTemplates.Literal.Recognition

/-!
# Reading expressions

A text is read twice: first by the rules alone, and if they do not match, once more with a
look at the hints. What is wrong is what the hints say, or else that the first token behind
all that was looked at is out of place. A fault in the order of tokens gives way to a token
further on that is wrong by itself.
-/

namespace NoteTemplates
namespace Literal

/-- How far a reader of expressions has come. -/
abbrev Reader := Progress ExpressionRule

/-- The fault that is told, given that of the order, and the line of the last token. -/
def scanRest (e : LiteralError) (line : Nat) : Nat → Scanner → LiteralError
  | 0, _ => e
  | budget + 1, a =>
    match a.next with
    | (.fault better, _) => better
    | (.token .finish _, _) => e
    | (.token .., a) => scanRest e line budget a
    | (.stop, a) =>
      match a.opened with
      | (bracket, start) :: _ => if line > start then .neverClosed bracket else e
      | [] => e

/-- The line of the last token that was looked at. -/
def lastLine (g : Reader) : Nat :=
  (g.tokens.back?.map Lexeme.line).getD 1

/-- The fault that is told if a fault in the order was found. -/
def preferToken (e : LiteralError) (g : Reader) : LiteralError :=
  scanRest e (lastLine g) (2 * g.scanner.limit) g.scanner

/-- The fault that is told if reading ended with a fault. -/
def conclude (e : LiteralError) (g : Reader) : LiteralError :=
  if e.isAboutMeaning || g.scanner.state ≠ .running then e else preferToken e g

/-- Reads a text by a rule, given how quoted texts side by side are joined. -/
def readBy (join : List QuotedText → Except LiteralError Expression) (rule : ExpressionRule)
    (s : Text) : Except LiteralError Expression :=
  let scanner := Scanner.ofText (Text.unifyLineEnds s)
  let attempt : Recognizer ExpressionRule Match :=
    ExpressionRule.grammar.run join (2 * scanner.limit) (Recognizer.depthLimit + 1) rule 0 0
  match attempt { scanner } with
  | .error e g => .error (conclude e g)
  | .ok (.found (e :: _) _) _ => .ok e
  | .ok _ g =>
    let last := g.tokens.back?.map Lexeme.token
    match attempt { g with memory := g.memory.map fun _ => [], hints := true } with
    | .error e g => .error (conclude e g)
    | .ok _ g =>
      match last with
      | some .indent => .error .unexpectedIndent
      | some .unindent => .error .unexpectedUnindent
      | _ => .error (preferToken .malformed g)

end Literal
end NoteTemplates
