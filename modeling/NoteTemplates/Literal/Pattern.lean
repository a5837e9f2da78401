import NoteTemplates.Literal.Expression

/-!
# Patterns

A grammar gives each of its rules a pattern. A pattern matches the beginning of a row of
tokens and makes expressions of it; of two patterns for the same place the second is tried
only if the first does not match. A pattern can also turn down what it has matched: then no
other pattern of the rule is tried. Hints are patterns for what is wrong: they match nothing
that is right, and say why.
-/

namespace NoteTemplates

/-- What a pattern makes of the expressions that it has matched. -/
inductive Verdict where
  | is (e : Expression)
  | isNot
  | fault (e : LiteralError)
  deriving Repr

/--
A pattern, with names of rules for other patterns. `commit` goes on behind its first part
without a way back, `many` and `grouped` stand for rules of their own, `ahead` and `notAhead`
look at what follows and leave it, and `bracketed` turns down what does not end in brackets.
-/
inductive Pattern (Rule : Type) where
  | rule (r : Rule)
  | name
  | softName
  | numeral
  | quoted
  | texts
  | keyword (s : Text)
  | sign (s : Text)
  | lineEnd
  | finish
  | both (p q : Pattern Rule)
  | commit (p q : Pattern Rule)
  | either (p q : Pattern Rule)
  | optional (p : Pattern Rule)
  | many (least : Nat) (p : Pattern Rule)
  | grouped (p : Pattern Rule)
  | ahead (p : Pattern Rule)
  | notAhead (p : Pattern Rule)
  | bracketed
  | make (f : List Expression → Verdict) (p : Pattern Rule)
  | hint (p : Pattern Rule)
  | withoutHints (p : Pattern Rule)

/-- How matches of a rule are kept: not at all, for later, or to begin with themselves. -/
inductive Keeping where
  | nothing
  | results
  | growth
  deriving DecidableEq, Repr

/-- The patterns of rules. -/
structure Grammar (Rule : Type) where
  pattern : Rule → Pattern Rule
  keeping : Rule → Keeping

namespace Pattern

variable {Rule : Type}

/-- Patterns one after the other. -/
def inOrder : Pattern Rule → List (Pattern Rule) → Pattern Rule
  | p, [] => p
  | p, q :: ps => .both p (inOrder q ps)

/-- The first of several patterns that matches. -/
def firstOf : Pattern Rule → List (Pattern Rule) → Pattern Rule
  | p, [] => p
  | p, q :: ps => .either p (firstOf q ps)

/-- An expression of a kind, with what is matched for its parts. -/
def node (kind : ExpressionKind) (p : Pattern Rule) : Pattern Rule :=
  .make (fun parts => .is (.of kind parts)) p

/-- A pattern once or more often, with another in between. -/
def separated (p separator : Pattern Rule) : Pattern Rule :=
  .grouped (.both p (.many 0 (.both separator p)))

end Pattern
end NoteTemplates
