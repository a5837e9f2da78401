import NoteTemplates.Literal.Token

/-!
# Scanning

A scanner gives the tokens of a text one after the other. Line ends and margins count only
outside of brackets, which are matched here. A scanner can come upon a token that is wrong,
which ends everything, or stop: at the end of the text within a bracket, at a line that is
not continued as it says, or at a margin that fits no other. What was wrong in a place where
it stops is told only if the token is needed.
-/

namespace NoteTemplates

/-- An open bracket and its line. -/
abbrev OpenBracket := Char × Nat

/-- How wide the margin of a line is: in columns, and with each tab counted as one. -/
structure Margin where
  columns : Nat := 0
  characters : Nat := 0
  deriving DecidableEq, Repr

/-- Whether a scanner goes on, is at the end, or has stopped before it. -/
inductive ScanState where
  | running
  | ended
  | stopped (e : LiteralError)
  deriving DecidableEq, Repr

/--
Where a scanner is: what it has not read, the line of that, the open brackets, the margins of
the blocks it is in, the outermost left out, whether a line begins, and how many tokens for
margins it has still to give, where those for ended blocks come first. No token is looked for
on more lines, or behind more continuations, than the limit says.
-/
structure Scanner where
  rest : Text
  limit : Nat
  line : Nat := 1
  opened : List OpenBracket := []
  margins : List Margin := []
  atMargin : Bool := true
  indents : Nat := 0
  unindents : Nat := 0
  state : ScanState := .running
  deriving DecidableEq, Repr

/-- What a scanner comes upon. -/
inductive Scanned where
  | token (t : Token) (line : Nat)
  | fault (e : LiteralError)
  | stop
  deriving DecidableEq, Repr

namespace Scanner

/-- How deep brackets may be nested. -/
def depthLimit : Nat := 200

/-- Each opening bracket with the one that closes it. -/
def bracketPairs : List (Char × Char) :=
  [('(', ')'), ('\x7b', '\x7d'), ('[', ']')]

/-- The open brackets after a bracket on a line. -/
def nest (line : Nat) (c : Char) (opened : List OpenBracket) :
    Except LiteralError (List OpenBracket) :=
  if c = '(' || c = '\x7b' || c = '[' then
    if opened.length ≥ depthLimit then .error .tooDeep else .ok ((c, line) :: opened)
  else if c = ')' || c = '\x7d' || c = ']' then
    match opened with
    | [] => .error (.unmatched c)
    | (opening, openingLine) :: opened =>
      if (opening, c) ∈ bracketPairs then .ok opened
      else
        .error (.mismatched c opening (if openingLine = line then none else some openingLine))
  else .ok opened

/-- Refuses a name with a character that no name has, or none has in the first place. -/
def checkName (s : Text) : Except LiteralError Unit :=
  let wrong :=
    match s with
    | [] => none
    | c :: rest =>
      if Text.beginsWord c then rest.find? fun c => !Text.isWordCharacter c else some c
  match wrong with
  | none => .ok ()
  | some c => .error (if Text.isPrintable c then .badCharacter c else .hiddenCharacter c)

/-- How many columns lie between tab stops. -/
def tabWidth : Nat := 8

/-- How deep margins may be nested. -/
def marginLimit : Nat := 99

/-- The margin of a line as far as it was read, and the columns before its first continuation. -/
structure MarginReading where
  margin : Margin := {}
  kept : Nat := 0

/-- The margin that counts: what stands before a continued line is kept, if it is anything. -/
def MarginReading.final (m : MarginReading) : Margin :=
  if m.kept = 0 then m.margin else ⟨m.kept, m.kept⟩

/-- Reads a margin on a line: the margin, the line that it ends on, and what follows it. -/
def readMargin : MarginReading → Nat → Text → Except ScanState (MarginReading × Nat × Text)
  | m, line, ' ' :: s =>
    readMargin { m with margin := ⟨m.margin.columns + 1, m.margin.characters + 1⟩ } line s
  | m, line, '\t' :: s =>
    let columns := (m.margin.columns / tabWidth + 1) * tabWidth
    readMargin { m with margin := ⟨columns, m.margin.characters + 1⟩ } line s
  | m, line, '\x0c' :: s => readMargin { m with margin := {} } line s
  | _, _, '\\' :: '\n' :: [] => .error .ended
  | m, line, '\\' :: '\n' :: s =>
    readMargin { m with kept := if m.kept = 0 then m.margin.columns else m.kept } (line + 1) s
  | _, _, '\\' :: _ => .error (.stopped .badContinuation)
  | m, line, s => .ok (m, line, s)

/-- A scanner in a line with a margin that is not blank. -/
def indent (a : Scanner) (m : Margin) : Except LiteralError Scanner :=
  let current := a.margins.headD {}
  if m.columns = current.columns then
    if m.characters = current.characters then .ok a else .error .mixedIndent
  else if m.columns > current.columns then
    if a.margins.length ≥ marginLimit then .error .tooManyIndents
    else if m.characters ≤ current.characters then .error .mixedIndent
    else .ok { a with margins := m :: a.margins, indents := a.indents + 1 }
  else
    let outer := a.margins.dropWhile fun o => m.columns < o.columns
    let left := outer.headD {}
    if m.columns ≠ left.columns then .error .strayUnindent
    else if m.characters ≠ left.characters then .error .mixedIndent
    else
      .ok { a with margins := outer, unindents := a.unindents + (a.margins.length - outer.length) }

/-- A scanner that has stopped, with what it is to be said to come upon. -/
def stopAt (a : Scanner) (state : ScanState) : Scanned × Scanner :=
  (.stop, { a with state })

/-- What a scanner comes upon at the end of the text. -/
def atEnd (a : Scanner) : Scanned × Scanner :=
  if a.opened.isEmpty then (.token .finish a.line, { a with state := .ended })
  else a.stopAt .ended

/-- A scanner behind a token, which sees the end of the text if it has looked behind the token. -/
def behind (a : Scanner) (looks : Bool) (rest : Text) : Scanner :=
  { a with rest, state := if looks && rest.isEmpty then .ended else a.state }

/-- A token has been read, and what follows it. -/
def give (a : Scanner) (t : Token) (rest : Text) : Scanned × Scanner :=
  (.token t a.line, a.behind true rest)

/-- How long a sign is at most. -/
def signLength : Nat := 3

/-- The quoted text, numeral, word or sign that a text begins with. -/
def readToken (a : Scanner) (c : Char) (s : Text) : Except LiteralError (Scanned × Scanner) := do
  let letters := (c :: s).takeWhile Numeral.isPlainWord
  let afterLetters := (c :: s).dropWhile Numeral.isPlainWord
  if Token.isTextPrefix letters && afterLetters.head?.any (fun m => m = '\'' || m = '"') then
    let (t, rest) ← Token.quoted? a.line letters afterLetters
    let after := a.behind (afterLetters.length = 2) rest
    return (.token (.quoted t) a.line, { after with line := a.line + t.body.count '\n' })
  else if c.isDigit || (c = '.' && s.head?.any Char.isDigit) then
    let (own, rest) ← Numeral.read (c :: s)
    return a.give (.numeral own) rest
  else if Numeral.isInName c then
    let own := (c :: s).takeWhile Numeral.isInName
    Token.checkName own
    return a.give (.ofWord own) ((c :: s).dropWhile Numeral.isInName)
  else
    match Token.longSigns.find? (Text.startsWith · (c :: s)) with
    | some own =>
      let after := a.behind (own.length < signLength) ((c :: s).drop own.length)
      return (.token (.sign own) a.line, after)
    | none =>
      let opened ← nest a.line c a.opened
      if !Text.isPrintable c then throw (.hiddenCharacter c)
      return { a with opened }.give (.sign [c]) s

/-- Reads within a line; the lines that follow it are read in the way that is given. -/
def readLine (next : Scanner → Scanned × Scanner) (isBlank : Bool) :
    Nat → Scanner → Scanned × Scanner
  | 0, a => a.atEnd
  | budget + 1, a =>
    let s := a.rest.dropWhile Token.isSpace
    let s := if s.head? = some '#' then s.dropWhile (· ≠ '\n') else s
    match s with
    | [] => { a with rest := [] }.atEnd
    | '\n' :: s =>
      let after := { a with rest := s, line := a.line + 1, atMargin := true }
      if isBlank || !a.opened.isEmpty then next after
      else (.token .lineEnd a.line, after)
    | '\\' :: '\n' :: [] => { a with rest := [] }.stopAt .ended
    | '\\' :: '\n' :: s => readLine next isBlank budget { a with rest := s, line := a.line + 1 }
    | '\\' :: s => { a with rest := s }.stopAt (.stopped .badContinuation)
    | c :: s =>
      match readToken a c s with
      | .ok r => r
      | .error e => (.fault e, { a with state := .stopped e })

/-- Gives the tokens for margins, or reads within a line. -/
def readOn (next : Scanner → Scanned × Scanner) (isBlank : Bool) (a : Scanner) :
    Scanned × Scanner :=
  if a.unindents > 0 then (.token .unindent a.line, { a with unindents := a.unindents - 1 })
  else if a.indents > 0 then (.token .indent a.line, { a with indents := a.indents - 1 })
  else readLine next isBlank a.limit a

/-- The next token; at most so many lines are read. -/
def advance : Nat → Scanner → Scanned × Scanner
  | 0, a => a.atEnd
  | budget + 1, a =>
    if !a.atMargin then readOn (advance budget) false a
    else
      match readMargin {} a.line a.rest with
      | .error state => { a with atMargin := false }.stopAt state
      | .ok (m, line, rest) =>
        let a := { a with line, rest, atMargin := false }
        let isBlank := rest.head? = some '#' || rest.head? = some '\n'
        if isBlank || !a.opened.isEmpty then readOn (advance budget) isBlank a
        else
          match a.indent m.final with
          | .error e => a.stopAt (.stopped e)
          | .ok a => readOn (advance budget) false a

/-- The next token. A scanner that has stopped stays so; at the end there is no end of ends. -/
def next (a : Scanner) : Scanned × Scanner :=
  match a.state with
  | .running => advance a.limit a
  | .ended => a.atEnd
  | .stopped _ => (.stop, a)

/-- A scanner before a text. -/
def ofText (s : Text) : Scanner :=
  { rest := s, limit := s.length + 1 }

/-- What is wrong where a scanner has stopped. -/
def reason (a : Scanner) : LiteralError :=
  match a.state, a.opened with
  | .stopped e, _ => e
  | _, bracket :: _ => .neverClosed bracket.1
  | _, [] => .unexpectedEnd

end Scanner
end NoteTemplates
