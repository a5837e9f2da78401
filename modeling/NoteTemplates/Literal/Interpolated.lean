import NoteTemplates.Literal.Escapes
import NoteTemplates.Literal.Reading

/-!
# Interpolated texts

An interpolated text has fields: expressions in braces, each with an optional sign for how
its value is written and an optional format behind a colon. A format may have fields of its
own. A brace that is written twice stands for itself. No interpolated text is a literal, but
one whose fields cannot be read is wrong where it stands.
-/

namespace NoteTemplates
namespace Interpolated

/-- How deep fields may stand in the formats of fields. -/
def fieldLimit : Nat := 2

/-- What a reverse solidus takes along, of what follows it: a name in braces or one character. -/
def takenAlong : Text → Text
  | 'N' :: '\x7b' :: s =>
    let name := s.takeWhile (· ≠ '\x7d')
    'N' :: '\x7b' :: s.take (name.length + 1)
  | 'N' :: s => 'N' :: s.take 1
  | c :: _ => if c = '\x7b' || c = '\x7d' then [] else [c]
  | [] => []

/--
The part before the first field, what follows it, and whether a brace that stands for itself
ends it; at most so many characters are read.
-/
def plainPart (isRaw isNested : Bool) : Nat → Text → Except FieldTrouble (Text × Text × Bool)
  | 0, s => .ok ([], s, false)
  | _, [] => .ok ([], [], false)
  | budget + 1, c :: s =>
    let goOn (own rest : Text) : Except FieldTrouble (Text × Text × Bool) :=
      (plainPart isRaw isNested budget rest).map fun (part, rest, more) => (own ++ part, rest, more)
    if c = '\\' && !isRaw then
      let own := takenAlong s
      goOn (c :: own) (s.drop own.length)
    else if c = '\x7b' || c = '\x7d' then
      if isNested then .ok ([], c :: s, false)
      else if s.head? = some c then .ok ([c], s.drop 1, true)
      else if c = '\x7d' then .error .neverOpened
      else .ok ([], c :: s, false)
    else goOn [c] s

/-- A mark that a text within a field began with, and whether it was written three times. -/
structure OpenMark where
  mark : Char
  isLong : Bool

/-- The signs of which one may end the expression of a field. -/
def lastSigns : List Char :=
  ['!', ':', '\x7d', '=']

/--
The expression that a field begins with, and what follows it, given the mark and the brackets
that are open; at most so many characters are read.
-/
def expression : Nat → Option OpenMark → List Char → Text → Except FieldTrouble (Text × Text)
  | 0, _, _, _ => .error .notClosed
  | _, some _, _, [] => .error .unterminated
  | _, none, bracket :: _, [] => .error (.unmatched bracket)
  | _, none, [], [] => .error .notClosed
  | budget + 1, quote, opened, c :: s =>
    let goOn (count : Nat) (quote : Option OpenMark) (opened : List Char) :
        Except FieldTrouble (Text × Text) :=
      (expression budget quote opened ((c :: s).drop count)).map fun (own, rest) =>
        ((c :: s).take count ++ own, rest)
    let isTriple : Bool := s.take 2 = [c, c]
    if c = '\\' then .error .reverseSolidus
    else
      match quote with
      | some q =>
        if c ≠ q.mark || (q.isLong && !isTriple) then goOn 1 quote opened
        else goOn (if q.isLong then 3 else 1) none opened
      | none =>
        if c = '\'' || c = '"' then goOn (if isTriple then 3 else 1) (some ⟨c, isTriple⟩) opened
        else if c = '(' || c = '\x7b' || c = '[' then
          if opened.length ≥ Scanner.depthLimit then .error .tooManyBrackets
          else goOn 1 none (c :: opened)
        else if c = '#' then .error .comment
        else if opened.isEmpty && c ∈ ['!', '=', '<', '>'] && s.head? = some '=' then
          goOn 2 none opened
        else if opened.isEmpty && c ∈ lastSigns then .ok ([], c :: s)
        else if c = ')' || c = '\x7d' || c = ']' then
          match opened with
          | [] => .error (.unmatched c)
          | bracket :: opened =>
            if (bracket, c) ∈ Scanner.bracketPairs then goOn 1 none opened
            else .error (.mismatched c bracket)
        else goOn 1 none opened

/-- What follows an equals sign behind an expression, if there is one, and the blanks after it. -/
def skipEquals (s : Text) : Text :=
  match s with
  | '=' :: s => s.dropWhile fun c => Token.isSpace c || c = '\n' || c = '\r' || c = '\x0b'
  | _ => s

/-- What follows the sign for how a value is written, if there is one. -/
def skipConversion (s : Text) : Except FieldTrouble Text :=
  match s with
  | '!' :: c :: s => if c ∈ ['s', 'r', 'a'] then .ok s else .error .badConversion
  | '!' :: [] => .error .notClosed
  | _ => .ok s

/-- Refuses an expression that is nothing but blanks, given what follows it. -/
def checkBlank (own rest : Text) : Except FieldTrouble Unit :=
  if own.any fun c => !(Token.isSpace c || c = '\n') then .ok ()
  else
    match rest with
    | c :: _ => .error (if c = '\x7d' then .empty else .missing c)
    | [] => .error .empty

/--
What follows an interpolated text: nothing, or the brace that ends the field whose format it
is. Expressions are checked in the way that is given; at most so many parts are read.
-/
def readParts (isRaw : Bool) (check : Text → Except LiteralError Unit) :
    Nat → Nat → Text → Except LiteralError Text
  | 0, _, s => .ok s
  | budget + 1, level, s => do
    let (part, rest, more) ← (plainPart isRaw (level > 0) s.length s).mapError .field
    match if isRaw then none else QuotedText.textFault? 0 part with
    | some e => throw e
    | none => pure ()
    if more then readParts isRaw check budget level rest
    else
      match rest with
      | '\x7b' :: s =>
        if level ≥ fieldLimit then throw (.field .tooDeep)
        let (own, rest) ← (expression (s.length + 1) none [] s).mapError .field
        (checkBlank own rest).mapError .field
        check own
        let rest ← (skipConversion (skipEquals rest)).mapError .field
        let rest ←
          match rest with
          | ':' :: s => readParts isRaw check budget (level + 1) s
          | rest => pure rest
        match rest with
        | '\x7d' :: s => readParts isRaw check budget level s
        | _ => throw (.field .notClosed)
      | rest => return rest

/-- Refuses an interpolated text with a field that cannot be read, given how to read fields. -/
def check (read : Text → Except LiteralError Unit) (t : QuotedText) : Except LiteralError Unit :=
  (readParts t.isRaw read (t.body.length + 1) 0 t.body).map fun _ => ()

/-- Quoted texts side by side as one; texts in fields are looked into so deep. -/
def join : Nat → List QuotedText → Except LiteralError Expression
  | 0, ts => QuotedText.join (fun _ => .ok ()) ts
  | depth + 1, ts =>
    let read (own : Text) : Except LiteralError Unit :=
      ((Literal.readBy (join depth) .listed ("(" ++ own ++ ")")).map fun _ => ()).mapError
        LiteralError.ofField
    QuotedText.join (check read) ts

end Interpolated
end NoteTemplates
