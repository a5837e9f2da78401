import NoteTemplates.Literal.Pattern

/-!
# The grammar of expressions

The rules by which expressions are written, and, among them, the hints: patterns for what
people write instead. A hint stands before or behind the rules that it goes with, as its
reason is to win over theirs or not.
-/

namespace NoteTemplates

/-- The rules of expressions. -/
inductive ExpressionRule where
  | whole
  | expressions
  | expression
  | plainExpression
  | yielded
  | listed
  | listedExpression
  | elements
  | element
  | binding
  | boundExpression
  | bindingHint
  | disjunction
  | conjunction
  | inversion
  | comparison
  | relation
  | bitOr
  | bitXor
  | bitAnd
  | shift
  | sum
  | term
  | factor
  | power
  | awaited
  | primary
  | atom
  | group
  | lambda
  | parameters
  | parameterList
  | slashPlain
  | slashDefault
  | starParameters
  | doubleStarParameter
  | plainParameter
  | defaultParameter
  | anyParameter
  | parameter
  | default
  | texts
  | tuple
  | set
  | table
  | entries
  | entry
  | pair
  | clauses
  | clause
  | setBuilder
  | generator
  | tableBuilder
  | builderHint
  | arguments
  | argumentList
  | keywordArguments
  | starredArgument
  | keywordOrStarred
  | keywordOrDoublyStarred
  | targets
  | target
  | targetOrAtom
  | targetAtom
  | tupleTargets
  | targetPrimary
  | targetAhead
  deriving DecidableEq, Repr

namespace ExpressionRule

open Pattern

/-- A pattern of the grammar of expressions. -/
abbrev Phrase := Pattern ExpressionRule

/-- A word with a meaning of its own. -/
def word (s : Text) : Phrase :=
  .keyword s

def comma : Phrase := .sign ","

def colon : Phrase := .sign ":"

def equals : Phrase := .sign "="

def binds : Phrase := .sign ":="

def star : Phrase := .sign "*"

def doubleStar : Phrase := .sign "**"

def slash : Phrase := .sign "/"

def openGroup : Phrase := .sign "("

def closeGroup : Phrase := .sign ")"

def openBraces : Phrase := .sign ['\x7b']

def closeBraces : Phrase := .sign ['\x7d']

def openList : Phrase := .sign "["

/-- One of several phrases, which are tried by themselves. -/
def oneOf (p : Phrase) (ps : List Phrase) : Phrase :=
  .grouped (firstOf p ps)

/-- Phrases in order, which are tried by themselves. -/
def allOf (p : Phrase) (ps : List Phrase) : Phrase :=
  .grouped (inOrder p ps)

/-- Hints, which are tried by themselves. -/
def hints (p : Phrase) (ps : List Phrase) : Phrase :=
  .hint (oneOf p ps)

/-- A fault where phrases stand in order. -/
def fault (e : LiteralError) (p : Phrase) (ps : List Phrase) : Phrase :=
  .make (fun _ => .fault e) (inOrder p ps)

/-- A fault, or none, where phrases stand in order; it depends on the first expression in them. -/
def faultBy (f : Expression → Verdict) (p : Phrase) (ps : List Phrase) : Phrase :=
  .make (fun es => (es.head?.map f).getD .isNot) (inOrder p ps)

/-- An expression of a kind, made of phrases in order. -/
def made (kind : ExpressionKind) (p : Phrase) (ps : List Phrase) : Phrase :=
  node kind (inOrder p ps)

/-- A phrase and others of a rule behind commas, which make a tuple, or the rule by itself. -/
def tupleOf (r : ExpressionRule) : Phrase :=
  firstOf
    (made .tuple (.rule r) [.many 1 (allOf comma [.rule r]), .optional comma])
    [made .tuple (.rule r) [comma], .rule r]

/-- Two operands around one of several signs, the first of which is tried first, or one operand. -/
def leftToRight (left right : ExpressionRule) (signs : List (Text × ExpressionKind)) : Phrase :=
  signs.foldr
    (fun (s, kind) rest => .either (made kind (.rule left) [.sign s, .rule right]) rest)
    (.rule right)

/-- Operands between which a word stands, or one operand. -/
def joinedBy (s : Text) (r : ExpressionRule) : Phrase :=
  firstOf (made .operation (.rule r) [.many 1 (allOf (word s) [.rule r])]) [.rule r]

/-- The values that words name. -/
def constant (s : Text) : Phrase :=
  node (.constant s) (word s)

/-- Expressions without a look at hints for them. -/
def unhinted : Phrase :=
  firstOf
    (made .conditional (.rule .disjunction)
      [word "if", .rule .disjunction, word "else", .rule .expression])
    [.rule .disjunction, .rule .lambda]

/-- Two expressions without anything between them, or a condition without its alternative. -/
def expressionHints : Phrase :=
  hints
    (faultBy (fun e => if e.isStatement then .isNot else .fault .missingComma)
      (.notAhead (oneOf (inOrder .name [.quoted]) [.softName]))
      [.rule .disjunction, .rule .plainExpression, .bracketed])
    [fault .missingElse (.rule .disjunction)
      [word "if", .rule .disjunction, .notAhead (oneOf (word "else") [colon])]]

/-- A name that was once a command, with what it would have been done with. -/
def statementHints : Phrase :=
  hints
    (faultBy (fun e => if e.isStatement then .fault (.statement (e.name?.getD [])) else .isNot)
      .name [.notAhead openGroup, .rule .listed])
    []

/-- The parameters of functions, where they are wrong. -/
def parameterHints : Phrase :=
  let start : Phrase := oneOf (.rule .slashPlain) [.rule .slashDefault]
  let wrong (t : ParameterTrouble) (p : Phrase) (ps : List Phrase) := fault (.parameters t) p ps
  hints
    (wrong .lateRequired (.many 0 (.rule .plainParameter))
      [oneOf (.rule .slashDefault) [.many 1 (.rule .defaultParameter)], .rule .plainParameter])
    [wrong .parenthesized (.many 0 (.rule .plainParameter))
      [openGroup, separated (.rule .parameter) comma, .optional comma, closeGroup],
     wrong .leadingSlash slash [comma],
     wrong .repeatedSlash start [.many 0 (.rule .anyParameter), slash],
     wrong .lateSlash (.optional start)
      [.many 0 (.rule .anyParameter), star, oneOf comma [.rule .plainParameter],
       .many 0 (.rule .anyParameter), slash],
     wrong .slashBeforeStar (.many 1 (.rule .anyParameter)) [slash, star]]

/-- A star among parameters, where it is wrong. -/
def starHints : Phrase :=
  let wrong (t : ParameterTrouble) (p : Phrase) (ps : List Phrase) := fault (.parameters t) p ps
  let first : Phrase := oneOf (.rule .plainParameter) [comma]
  hints
    (wrong .bareStar star [oneOf colon [inOrder comma [oneOf colon [doubleStar]]]])
    [wrong .starDefault star [.rule .parameter, equals],
     wrong .repeatedStar star [first, .many 0 (.rule .anyParameter), star, first]]

/-- Two stars among parameters, where they are wrong. -/
def doubleStarHints : Phrase :=
  let wrong (t : ParameterTrouble) (p : Phrase) (ps : List Phrase) := fault (.parameters t) p ps
  hints
    (wrong .doubleStarDefault doubleStar [.rule .parameter, equals])
    [wrong .afterDoubleStar doubleStar [.rule .parameter, comma, .rule .parameter],
     wrong .afterDoubleStar doubleStar [.rule .parameter, comma, oneOf star [doubleStar, slash]]]

/-- A value of a key that is starred or not there. -/
def valueFaults : List Phrase :=
  [fault .starredValue (.rule .expression) [colon, star, .rule .bitOr],
   fault .missingValue (.rule .expression) [colon, .ahead (oneOf closeBraces [comma])]]

/-- Entries of tables, where they are wrong, which is seen without a look at hints. -/
def entryFaults : Phrase :=
  oneOf
    (inOrder (separated (.rule .entry) comma)
      [comma, oneOf (fault .missingColon (.rule .expression) [.notAhead colon]) valueFaults])
    valueFaults

/-- Arguments with a name, where they are wrong. -/
def keywordHints : Phrase :=
  hints
    (faultBy (fun e => .fault (.noTarget e.kind))
      (oneOf (constant "True") [constant "False", constant "None"]) [equals])
    [fault .comparedByName .name [equals, .rule .expression, .rule .clauses],
     fault .assignedArgument (.notAhead (allOf .name [equals])) [.rule .expression, equals]]

/-- What is wrong with arguments that others without names follow. -/
def positionalFault (e : Expression) : LiteralError :=
  if e.parts.any fun a => a.kind = .doublyStarredArgument then .positionalAfterSpread
  else .positionalAfterKeyword

/-- Arguments, where they are wrong. -/
def argumentHints : Phrase :=
  let few (e : Expression) : Bool := (e.parts.filter Expression.isPositional).length ≤ 1
  let given : Phrase := node .arguments (.rule .argumentList)
  hints
    (fault .starAfterKeywords given [comma, star])
    [fault .bareGenerator (.rule .expression)
      [.rule .clauses, comma,
       .optional (oneOf (.rule .argumentList) [inOrder (.rule .expression) [.rule .clauses]])],
     fault .comparedByName .name [equals, .rule .expression, .rule .clauses],
     faultBy (fun e => if few e then .isNot else .fault .bareGenerator) given [.rule .clauses],
     fault .bareGenerator given [comma, .rule .expression, .rule .clauses],
     faultBy (fun e => .fault (positionalFault e)) given [comma, .rule .argumentList]]

/-- What values are given to as a collection is gone through, where it cannot be given any. -/
def targetHints : Phrase :=
  hints
    (faultBy (fun e => (e.nonTarget?.map fun t => .fault (.noTarget t.kind)).getD .isNot)
      (.optional (word "async")) [word "for", .rule .listed])
    []

/-- What goes through a collection, behind the words that begin it. -/
def clauseRest : Phrase :=
  .commit (inOrder (.rule .targets) [word "in"])
    (inOrder (.rule .disjunction) [.many 0 (allOf (word "if") [.rule .disjunction])])

/-- An expression to which no name is bound, or one with a name. -/
def member : Phrase :=
  oneOf (.rule .binding) [inOrder (.rule .expression) [.notAhead binds]]

/-- The pattern of a rule. -/
def pattern : ExpressionRule → Phrase
  | whole => inOrder (.rule .expressions) [.many 0 .lineEnd, .finish]
  | expressions => tupleOf .expression
  | expression => firstOf expressionHints [statementHints, unhinted]
  | plainExpression => .withoutHints unhinted
  | yielded =>
    firstOf (made .yielded (word "yield") [word "from", .rule .expression])
      [made .yielded (word "yield") [.optional (.rule .listed)]]
  | listed => tupleOf .listedExpression
  | listedExpression => firstOf (made .starred star [.rule .bitOr]) [.rule .expression]
  | elements => inOrder (separated (.rule .element) comma) [.optional comma]
  | element => firstOf (made .starred star [.rule .bitOr]) [.rule .boundExpression]
  | binding => made .bound .name [.commit binds (.rule .expression)]
  | boundExpression =>
    firstOf (.rule .binding)
      [.hint (.rule .bindingHint), inOrder (.rule .expression) [.notAhead binds]]
  | bindingHint =>
    let alone : Phrase := .notAhead (oneOf equals [binds])
    let fixed : Phrase := oneOf (.rule .tuple)
      [.rule .generator, constant "True", constant "None", constant "False"]
    firstOf
      (faultBy (fun e => .fault (.boundInside e.kind)) (.rule .expression)
        [binds, .rule .expression])
      [fault .comparedByName .name [equals, .rule .bitOr, alone],
       faultBy (fun e => .fault (.assigned e.kind)) (.notAhead fixed)
        [.rule .bitOr, equals, .rule .bitOr, alone]]
  | disjunction => joinedBy "or" .conjunction
  | conjunction => joinedBy "and" .inversion
  | inversion => firstOf (made .operation (word "not") [.rule .inversion]) [.rule .comparison]
  | comparison =>
    firstOf (made .comparison (.rule .bitOr) [.many 1 (.rule .relation)]) [.rule .bitOr]
  | relation =>
    let compared (p : Phrase) (ps : List Phrase) : Phrase := .grouped (made .relation p ps)
    firstOf (compared (.sign "==") [.rule .bitOr])
      [compared (.grouped (.sign "!=")) [.rule .bitOr], compared (.sign "<=") [.rule .bitOr],
       compared (.sign "<") [.rule .bitOr], compared (.sign ">=") [.rule .bitOr],
       compared (.sign ">") [.rule .bitOr], compared (word "not") [word "in", .rule .bitOr],
       .grouped (made .membership (word "in") [.rule .bitOr]),
       compared (word "is") [word "not", .rule .bitOr], compared (word "is") [.rule .bitOr]]
  | bitOr => leftToRight .bitOr .bitXor [("|", .operation)]
  | bitXor => leftToRight .bitXor .bitAnd [("^", .operation)]
  | bitAnd => leftToRight .bitAnd .shift [("&", .operation)]
  | shift => leftToRight .shift .sum [("<<", .operation), (">>", .operation)]
  | sum => leftToRight .sum .term [("+", .sum), ("-", .difference)]
  | term =>
    leftToRight .term .factor
      [("*", .operation), ("/", .operation), ("//", .operation), ("%", .operation),
       ("@", .operation)]
  | factor =>
    firstOf (made .identity (.sign "+") [.rule .factor])
      [made .negation (.sign "-") [.rule .factor], made .operation (.sign "~") [.rule .factor],
       .rule .power]
  | power =>
    firstOf (made .operation (.rule .awaited) [doubleStar, .rule .factor]) [.rule .awaited]
  | awaited => firstOf (made .awaited (word "await") [.rule .primary]) [.rule .primary]
  | primary =>
    firstOf (made .member (.rule .primary) [.sign ".", .name])
      [made .call (.rule .primary) [.rule .generator],
       made .call (.rule .primary) [openGroup, .optional (.rule .arguments), closeGroup],
       .rule .atom]
  | atom =>
    firstOf .name
      [constant "True", constant "False", constant "None",
       inOrder (.ahead .quoted) [.rule .texts], .numeral,
       inOrder (.ahead openGroup) [oneOf (.rule .tuple) [.rule .group, .rule .generator]],
       inOrder (.ahead openBraces)
        [oneOf (.rule .table) [.rule .set, .rule .tableBuilder, .rule .setBuilder]],
       node .ellipsis (.sign "...")]
  | group =>
    firstOf
      (inOrder openGroup [oneOf (.rule .yielded) [.rule .boundExpression], closeGroup])
      [hints (fault .starred openGroup [.rule .starredArgument, closeGroup])
        [fault .doublyStarred openGroup [doubleStar, .rule .expression, closeGroup]]]
  | lambda =>
    made .lambda (word "lambda") [.optional (.rule .parameters), colon, .rule .expression]
  | parameters => firstOf parameterHints [.rule .parameterList]
  | parameterList =>
    let plain : Phrase := .rule .plainParameter
    let withDefaults : Phrase := .rule .defaultParameter
    let rest : Phrase := .optional (.rule .starParameters)
    firstOf (inOrder (.rule .slashPlain) [.many 0 plain, .many 0 withDefaults, rest])
      [inOrder (.rule .slashDefault) [.many 0 withDefaults, rest],
       inOrder (.many 1 plain) [.many 0 withDefaults, rest],
       inOrder (.many 1 withDefaults) [rest],
       .rule .starParameters]
  | slashPlain =>
    let plain : Phrase := .many 1 (.rule .plainParameter)
    firstOf (inOrder plain [slash, comma]) [inOrder plain [slash, .ahead colon]]
  | slashDefault =>
    let plain : Phrase := .many 0 (.rule .plainParameter)
    let withDefaults : Phrase := .many 1 (.rule .defaultParameter)
    firstOf (inOrder plain [withDefaults, slash, comma])
      [inOrder plain [withDefaults, slash, .ahead colon]]
  | starParameters =>
    let rest : Phrase := .optional (.rule .doubleStarParameter)
    firstOf starHints
      [inOrder star [.rule .plainParameter, .many 0 (.rule .anyParameter), rest],
       inOrder star [comma, .many 1 (.rule .anyParameter), rest],
       .rule .doubleStarParameter]
  | doubleStarParameter =>
    firstOf doubleStarHints [inOrder doubleStar [.rule .plainParameter]]
  | plainParameter =>
    firstOf (inOrder (.rule .parameter) [comma]) [inOrder (.rule .parameter) [.ahead colon]]
  | defaultParameter =>
    firstOf (inOrder (.rule .parameter) [.rule .default, comma])
      [inOrder (.rule .parameter) [.rule .default, .ahead colon]]
  | anyParameter =>
    firstOf (inOrder (.rule .parameter) [.optional (.rule .default), comma])
      [inOrder (.rule .parameter) [.optional (.rule .default), .ahead colon]]
  | parameter => .name
  | default =>
    firstOf (inOrder equals [.rule .expression])
      [hints (fault .missingDefault equals [.ahead (oneOf closeGroup [comma])]) []]
  | texts => .texts
  | tuple =>
    made .tuple openGroup
      [.optional (allOf (.rule .element) [comma, .optional (.rule .elements)]), closeGroup]
  | set => made .set openBraces [.rule .elements, closeBraces]
  | table =>
    firstOf (made .table openBraces [.optional (.rule .entries), closeBraces])
      [inOrder openBraces [entryFaults, closeBraces]]
  | entries => inOrder (separated (.rule .entry) comma) [.optional comma]
  | entry => firstOf (made .spread doubleStar [.rule .bitOr]) [.rule .pair]
  | pair => made .entry (.rule .expression) [colon, .rule .expression]
  | clauses => .many 1 (.rule .clause)
  | clause =>
    firstOf (made .clause (word "async") [word "for", clauseRest])
      [made .clause (word "for") [clauseRest], targetHints]
  | setBuilder =>
    firstOf (made .setBuilder openBraces [.rule .boundExpression, .rule .clauses, closeBraces])
      [.hint (.rule .builderHint)]
  | generator =>
    firstOf (made .generator openGroup [member, .rule .clauses, closeGroup])
      [.hint (.rule .builderHint)]
  | tableBuilder =>
    firstOf (made .tableBuilder openBraces [.rule .pair, .rule .clauses, closeBraces])
      [hints (fault .spreadBuilder openBraces
        [doubleStar, .rule .bitOr, .rule .clauses, closeBraces]) []]
  | builderHint =>
    let opened : Phrase := oneOf openList [openBraces]
    firstOf
      (fault .starredBuilder (oneOf openList [openGroup, openBraces])
        [.rule .starredArgument, .rule .clauses])
      [fault .bareTargets opened [.rule .element, comma, .rule .elements, .rule .clauses],
       fault .bareTargets opened [.rule .element, comma, .rule .clauses]]
  | arguments =>
    firstOf (inOrder (.rule .argumentList) [.optional comma, .ahead closeGroup]) [argumentHints]
  | argumentList =>
    firstOf
      (inOrder
        (separated (oneOf (.rule .starredArgument) [inOrder member [.notAhead equals]]) comma)
        [.optional (allOf comma [.rule .keywordArguments])])
      [.rule .keywordArguments]
  | keywordArguments =>
    let early : Phrase := separated (.rule .keywordOrStarred) comma
    let late : Phrase := separated (.rule .keywordOrDoublyStarred) comma
    firstOf (inOrder early [comma, late]) [early, late]
  | starredArgument => made .starred star [.rule .expression]
  | keywordOrStarred =>
    firstOf keywordHints
      [made .keywordArgument .name [equals, .rule .expression], .rule .starredArgument]
  | keywordOrDoublyStarred =>
    firstOf keywordHints
      [made .keywordArgument .name [equals, .rule .expression],
       made .doublyStarredArgument doubleStar [.rule .expression]]
  | targets =>
    firstOf (inOrder (.rule .target) [.notAhead comma])
      [inOrder (.rule .target) [.many 0 (allOf comma [.rule .target]), .optional comma]]
  | target =>
    firstOf (inOrder star [allOf (.notAhead star) [.rule .target]]) [.rule .targetOrAtom]
  | targetOrAtom =>
    firstOf (inOrder (.rule .targetPrimary) [.sign ".", .name, .notAhead (.rule .targetAhead)])
      [.rule .targetAtom]
  | targetAtom =>
    firstOf .name
      [inOrder openGroup [.rule .targetOrAtom, closeGroup],
       inOrder openGroup [.optional (.rule .tupleTargets), closeGroup]]
  | tupleTargets =>
    firstOf
      (inOrder (.rule .target) [.many 1 (allOf comma [.rule .target]), .optional comma])
      [inOrder (.rule .target) [comma]]
  | targetPrimary =>
    let goesOn : Phrase := .ahead (.rule .targetAhead)
    firstOf (made .member (.rule .targetPrimary) [.sign ".", .name, goesOn])
      [made .call (.rule .targetPrimary) [.rule .generator, goesOn],
       made .call (.rule .targetPrimary)
        [openGroup, .optional (.rule .arguments), closeGroup, goesOn],
       inOrder (.rule .atom) [goesOn]]
  | targetAhead => firstOf openGroup [openList, .sign "."]

/-- How matches of a rule are kept. -/
def keeping : ExpressionRule → Keeping
  | expression | listedExpression | disjunction | conjunction | inversion | factor | awaited
  | texts | arguments | target | targetOrAtom | bindingHint => .results
  | bitOr | bitXor | bitAnd | shift | sum | term | primary | targetPrimary => .growth
  | _ => .nothing

/-- The grammar of expressions. -/
def grammar : Grammar ExpressionRule :=
  { pattern, keeping }

end ExpressionRule
end NoteTemplates
