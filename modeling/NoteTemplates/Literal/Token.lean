import NoteTemplates.Literal.Numeral
import NoteTemplates.Text.Word

/-!
# Tokens of literals

The parts that a literal is read in: names, words with a meaning of their own, numerals,
quoted texts, signs, and the ends and margins of lines.
-/

namespace NoteTemplates

/-- A quoted text: what stands before its first mark decides how it is read. -/
structure QuotedText where
  isBytes : Bool
  isRaw : Bool
  isInterpolated : Bool
  body : Text
  deriving DecidableEq, Repr

/-- A token. -/
inductive Token where
  | name (s : Text)
  | keyword (s : Text)
  | numeral (s : Text)
  | quoted (t : QuotedText)
  | sign (s : Text)
  | lineEnd
  | indent
  | unindent
  | finish
  deriving DecidableEq, Repr

/-- A token with the line it stands on and the number of brackets that are open behind it. -/
structure Lexeme where
  token : Token
  line : Nat
  depth : Nat
  deriving DecidableEq, Repr

namespace Token

/-- Words that are no names. -/
def keywords : List Text :=
  (["False", "None", "True", "and", "as", "assert", "async", "await", "break", "class",
   "continue", "def", "del", "elif", "else", "except", "finally", "for", "from", "global",
   "if", "import", "in", "is", "lambda", "nonlocal", "not", "or", "pass", "raise", "return",
   "try", "while", "with", "yield"] : List String).map String.toList

/-- Names that are keywords in some places. -/
def softKeywords : List Text :=
  (["_", "case", "match"] : List String).map String.toList

/-- Names that were once commands. -/
def statements : List Text :=
  (["exec", "print"] : List String).map String.toList

/-- The token that a word is. -/
def ofWord (s : Text) : Token :=
  if s ∈ keywords then .keyword s else .name s

/-- The rest of a text in single marks, or on how many more lines its end was looked for. -/
def shortBody (mark : Char) : Text → Except Nat (Text × Text)
  | [] => .error 0
  | '\\' :: c :: s =>
    match shortBody mark s with
    | .ok (body, rest) => .ok ('\\' :: c :: body, rest)
    | .error lines => .error (if c = '\n' then lines + 1 else lines)
  | c :: s =>
    if c = mark then .ok ([], s)
    else if c = '\n' then .error 0
    else (shortBody mark s).map fun (body, rest) => (c :: body, rest)

/-- The rest of a text in triple marks, or on how many more lines its end was looked for. -/
def longBody (mark : Char) : Text → Except Nat (Text × Text)
  | [] => .error 0
  | '\\' :: c :: s =>
    match longBody mark s with
    | .ok (body, rest) => .ok ('\\' :: c :: body, rest)
    | .error lines => .error (if c = '\n' then lines + 1 else lines)
  | c :: s =>
    if c = mark && s.take 2 = [mark, mark] then .ok ([], s.drop 2)
    else
      match longBody mark s with
      | .ok (body, rest) => .ok (c :: body, rest)
      | .error lines => .error (if c = '\n' then lines + 1 else lines)

/-- The body of a text in marks, read from its first mark, and what follows it. -/
def quotedBody (line : Nat) (s : Text) : Except LiteralError (Text × Text) :=
  match s with
  | [] => .ok ([], [])
  | mark :: s =>
    let found (long : Bool) (r : Except Nat (Text × Text)) : Except LiteralError (Text × Text) :=
      r.mapError fun lines => .unterminated long (line + lines)
    if s.take 2 = [mark, mark] then found true (longBody mark (s.drop 2))
    else found false (shortBody mark s)

/-- Whether letters may stand before the first mark of a text. -/
def isTextPrefix (letters : Text) : Bool :=
  letters.map Char.toLower ∈
    ([[], ['b'], ['u'], ['r'], ['f'], ['b', 'r'], ['r', 'b'], ['f', 'r'], ['r', 'f']] : List Text)

/-- The quoted text that a text begins with, given the letters before its first mark. -/
def quoted? (line : Nat) (letters s : Text) : Except LiteralError (QuotedText × Text) := do
  let (body, rest) ← quotedBody line s
  let letters := letters.map Char.toLower
  return ({ isBytes := letters.contains 'b', isRaw := letters.contains 'r'
            isInterpolated := letters.contains 'f', body }, rest)

/-- The signs of three characters and of two. -/
def longSigns : List Text :=
  (["**=", "//=", "<<=", ">>=", "...", "!=", "%=", "&=", "**", "*=", "+=", "-=", "->", "//",
    "/=", ":=", "<<", "<=", "<>", "==", ">=", ">>", "@=", "^=", "|="] : List String).map
    String.toList

/-- Refuses a name with a character that no name has, or none has in the first place. -/
def checkName (s : Text) : Except LiteralError Unit :=
  let wrong :=
    match s with
    | [] => none
    | c :: rest =>
      if Text.beginsWord c then rest.find? fun c => !Text.isWordCharacter c else some c
  match wrong with
  | none => .ok ()
  | some c => .error (if Text.isPrintable c then .badCharacter c else .hiddenCharacter c)

/-- Whether a character separates tokens within a line. -/
def isSpace (c : Char) : Bool :=
  c = ' ' || c = '\t' || c = '\x0c'

end Token
end NoteTemplates
