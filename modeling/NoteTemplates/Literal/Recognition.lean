import NoteTemplates.Literal.Pattern
import NoteTemplates.Literal.Scanner

/-!
# Recognition

Matches the patterns of a grammar against a text. Tokens are scanned only when a pattern
looks at them, so that the first thing wrong with the text is found where a reader comes upon
it. What rules have matched is remembered, and a rule that begins with itself grows: it is
matched again and again, each time with its last match for the beginning.
-/

namespace NoteTemplates

/-- What a rule matched at a place: expressions and where they end, or nothing. -/
structure Remembered (Rule : Type) where
  rule : Rule
  found : Option (List Expression × Nat)

/--
How far a text was read: the scanner, the tokens so far, what is remembered at each of them,
and whether hints are looked for.
-/
structure Progress (Rule : Type) where
  scanner : Scanner
  tokens : Array Lexeme := #[]
  memory : Array (List (Remembered Rule)) := #[]
  hints : Bool := false

/--
How a pattern ends at a place: it has matched, with what it made, the latest first; it has
not; or nothing else is to be tried.
-/
inductive Match where
  | found (made : List Expression) (place : Nat)
  | missed
  | declined

/-- A step of recognition, which a fault ends. -/
abbrev Recognizer (Rule α : Type) := EStateM LiteralError (Progress Rule) α

namespace Recognizer

variable {Rule : Type}

/-- How deep rules may be nested. -/
def depthLimit : Nat := 6000

/-- The next token of the scanner, put behind the others. -/
def scanToken : Recognizer Rule Lexeme := do
  let (found, scanner) := (← get).scanner.next
  modify fun g => { g with scanner }
  match found with
  | .token token line =>
    let lexeme : Lexeme := { token, line, depth := scanner.opened.length }
    modify fun g => { g with tokens := g.tokens.push lexeme, memory := g.memory.push [] }
    return lexeme
  | .fault e => throw e
  | .stop =>
    let lexeme : Lexeme := { token := .finish, line := scanner.line, depth := 0 }
    modify fun g => { g with tokens := g.tokens.push lexeme, memory := g.memory.push [] }
    throw scanner.reason

/-- The token at a place, which is one of those so far or the next one. -/
def tokenAt (place : Nat) : Recognizer Rule Lexeme := do
  match (← get).tokens[place]? with
  | some lexeme => return lexeme
  | none => scanToken

/-- What a rule has matched at a place, if it is remembered. -/
def known [DecidableEq Rule] (r : Rule) (place : Nat) :
    Recognizer Rule (Option (Remembered Rule)) := do
  discard (tokenAt place)
  return ((← get).memory[place]?.getD []).find? fun m => m.rule = r

/-- Remembers what a rule has matched at a place, in the stead of what it had matched before. -/
def remember [DecidableEq Rule] (r : Rule) (place : Nat)
    (found : Option (List Expression × Nat)) : Recognizer Rule Unit :=
  modify fun g =>
    { g with memory := g.memory.modify place fun ms =>
        ⟨r, found⟩ :: ms.filter fun m => m.rule ≠ r }

/-- Refuses to go deeper than rules may be nested. -/
def checkDepth (depth : Nat) : Recognizer Rule Unit :=
  if depth ≥ depthLimit then throw .exhausted else pure ()

/-- Matches a token that a test accepts, and makes of it what is given. -/
def matchToken (place : Nat) (made : List Expression)
    (accept : Token → Option (List Expression)) : Recognizer Rule Match := do
  match accept (← tokenAt place).token with
  | some own => return .found (own ++ made) (place + 1)
  | none => return .missed

/-- The quoted texts from a place on, and the place behind them. -/
def quotedFrom : Nat → Nat → List QuotedText → Recognizer Rule (List QuotedText × Nat)
  | 0, place, found => return (found.reverse, place)
  | budget + 1, place, found => do
    match (← tokenAt place).token with
    | .quoted t => quotedFrom budget (place + 1) (t :: found)
    | _ => return (found.reverse, place)

/-- Matches something again and again, at most so many times. -/
def repeatMatch (step : Nat → List Expression → Recognizer Rule Match) :
    Nat → Nat → Nat → List Expression → Recognizer Rule Match
  | 0, _, place, made => return .found made place
  | budget + 1, least, place, made => do
    match ← step place made with
    | .found made place => repeatMatch step budget (least - 1) place made
    | _ => return if least = 0 then .found made place else .missed

end Recognizer

namespace Pattern

open Recognizer

variable {Rule : Type}

/--
Matches a pattern at a place, where rules are nested so deep, and puts what it makes in front
of what was made before. It is given how quoted texts side by side are joined, how rules are
matched, and how many tokens there can be.
-/
def run (join : List QuotedText → Except LiteralError Expression)
    (call : Rule → Nat → Nat → Recognizer Rule Match) (size : Nat) :
    Pattern Rule → Nat → Nat → List Expression → Recognizer Rule Match
  | .rule r, depth, place, made => do
    match ← call r depth place with
    | .found own place => return .found (own ++ made) place
    | _ => return .missed
  | .name, _, place, made => matchToken place made fun t =>
    match t with
    | .name s => some [.of (.name s) []]
    | _ => none
  | .softName, _, place, made => matchToken place made fun t =>
    match t with
    | .name s => if s ∈ Token.softKeywords then some [.of (.name s) []] else none
    | _ => none
  | .numeral, _, place, made => do
    match (← tokenAt place).token with
    | .numeral s =>
      match Numeral.checkLength s with
      | .ok _ => return .found (.of (.numeral s) [] :: made) (place + 1)
      | .error e => throw e
    | _ => return .missed
  | .quoted, _, place, made => matchToken place made fun t =>
    match t with
    | .quoted _ => some []
    | _ => none
  | .texts, depth, place, made => do
    checkDepth depth
    let (found, place) ← quotedFrom size place []
    if found.isEmpty then return .missed
    match join found with
    | .ok e => return .found (e :: made) place
    | .error e => throw e
  | .keyword s, _, place, made => matchToken place made fun t =>
    if t = .keyword s then some [] else none
  | .sign s, _, place, made => matchToken place made fun t =>
    if t = .sign s then some [] else none
  | .lineEnd, _, place, made => matchToken place made fun t =>
    if t = .lineEnd then some [] else none
  | .finish, _, place, made => matchToken place made fun t =>
    if t = .finish then some [] else none
  | .both p q, depth, place, made => do
    match ← run join call size p depth place made with
    | .found made place => run join call size q depth place made
    | m => return m
  | .commit p q, depth, place, made => do
    match ← run join call size p depth place made with
    | .found made place =>
      match ← run join call size q depth place made with
      | .missed => return .declined
      | m => return m
    | m => return m
  | .either p q, depth, place, made => do
    match ← run join call size p depth place made with
    | .missed => run join call size q depth place made
    | m => return m
  | .optional p, depth, place, made => do
    match ← run join call size p depth place made with
    | .found made place => return .found made place
    | _ => return .found made place
  | .many least p, depth, place, made => do
    checkDepth depth
    repeatMatch (run join call size p (depth + 1)) size least place made
  | .grouped p, depth, place, made => do
    checkDepth depth
    match ← run join call size p (depth + 1) place made with
    | .declined => return .missed
    | m => return m
  | .ahead p, depth, place, made => do
    match ← run join call size p depth place [] with
    | .found .. => return .found made place
    | _ => return .missed
  | .notAhead p, depth, place, made => do
    match ← run join call size p depth place [] with
    | .found .. => return .missed
    | _ => return .found made place
  | .bracketed, _, place, made => do
    match (← get).tokens[place - 1]? with
    | some l => return if l.depth = 0 then .declined else .found made place
    | none => return .declined
  | .make f p, depth, place, made => do
    match ← run join call size p depth place [] with
    | .found own place =>
      match f own.reverse with
      | .is e => return .found (e :: made) place
      | .isNot => return .declined
      | .fault e => throw e
    | m => return m
  | .hint p, depth, place, made => do
    if (← get).hints then run join call size p depth place made else return .missed
  | .withoutHints p, depth, place, made => do
    let hints := (← get).hints
    modify fun g => { g with hints := false }
    let m ← run join call size p depth place made
    modify fun g => { g with hints }
    return m

end Pattern

namespace Grammar

open Recognizer

variable {Rule : Type} [DecidableEq Rule]

/-- A match of a rule, as it is remembered. -/
def kept : Match → Option (List Expression × Nat)
  | .found own place => some (own, place)
  | _ => none

/-- What is remembered, as a match. -/
def again : Option (List Expression × Nat) → Match
  | some (own, place) => .found own place
  | none => .missed

/--
Matches a rule that begins with itself at a place, at most so many times, as long as each
match goes further than the last.
-/
def grow (r : Rule) (start : Nat) (step : Recognizer Rule Match) :
    Nat → Option (List Expression × Nat) → Recognizer Rule Match
  | 0, best => return again best
  | budget + 1, best => do
    remember r start best
    match kept (← step) with
    | some (own, place) =>
      if place > (best.map (·.2)).getD start then grow r start step budget (some (own, place))
      else return again best
    | none => return again best

/-- Matches a rule at a place, where rules are nested so deep; they may be so much deeper. -/
def run (g : Grammar Rule) (join : List QuotedText → Except LiteralError Expression) (size : Nat) :
    Nat → Rule → Nat → Nat → Recognizer Rule Match
  | 0, _, _, _ => throw .exhausted
  | fuel + 1, r, depth, place => do
    checkDepth depth
    let body (depth : Nat) : Recognizer Rule Match :=
      Pattern.run join (run g join size fuel) size (g.pattern r) depth place []
    match g.keeping r with
    | .nothing => body (depth + 1)
    | .results =>
      match ← known r place with
      | some m => return again m.found
      | none =>
        let m ← body (depth + 1)
        remember r place (kept m)
        return m
    | .growth =>
      match ← known r place with
      | some m => return again m.found
      | none =>
        grow r place (do checkDepth (depth + 1); body (depth + 2)) size none

end Grammar
end NoteTemplates
