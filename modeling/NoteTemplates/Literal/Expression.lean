import NoteTemplates.Literal.Token

/-!
# Expressions

An expression as a tree: what it is made as, and its parts. A name, a value that is written
out, and the like have none.
-/

namespace NoteTemplates

/-- An expression. -/
inductive Expression where
  | of (kind : ExpressionKind) (parts : List Expression)
  deriving Repr

namespace Expression

/-- What an expression is made as. -/
def kind : Expression → ExpressionKind
  | of kind _ => kind

/-- The parts of an expression. -/
def parts : Expression → List Expression
  | of _ parts => parts

/-- The name that an expression is, if it is one. -/
def name? (e : Expression) : Option Text :=
  match e.kind with
  | .name s => some s
  | _ => none

/-- Whether an expression is a name that was once a command. -/
def isStatement (e : Expression) : Bool :=
  e.name?.any fun s => s ∈ Token.statements

/-- Whether an argument of a call has no name and is not unpacked into named ones. -/
def isPositional (e : Expression) : Bool :=
  e.kind ≠ .keywordArgument && e.kind ≠ .doublyStarredArgument && e.kind ≠ .clause

mutual

/-- How deep a tree is. -/
def height : Expression → Nat
  | of _ parts => heightOfAll parts + 1

/-- How deep the deepest of some trees is. -/
def heightOfAll : List Expression → Nat
  | [] => 0
  | e :: es => max e.height (heightOfAll es)

end

mutual

/--
The part of an expression that cannot be given a value, if there is one: names can, also
within other values, and so can what is looked for in another value.
-/
def nonTarget? : Expression → Option Expression
  | of kind parts =>
    match kind, parts with
    | .name _, _ => none
    | .member, _ => none
    | .tuple, parts => nonTargetOfAll? parts
    | .starred, e :: _ => nonTarget? e
    | .comparison, e :: of .membership _ :: _ => nonTarget? e
    | .comparison, _ => none
    | kind, parts => some (of kind parts)

/-- The first part of some expressions that cannot be given a value. -/
def nonTargetOfAll? : List Expression → Option Expression
  | [] => none
  | e :: es => (nonTarget? e).or (nonTargetOfAll? es)

end

end Expression
end NoteTemplates
