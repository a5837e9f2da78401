import NoteTemplates.Literal.Basic

/-!
# Numerals

How numbers are written in literals: whole numbers to base ten, two, eight or sixteen, with
single underscores between the digits, and decimal fractions with an exponent, which a letter
behind them makes imaginary. A numeral that runs into a name is refused.
-/

namespace NoteTemplates
namespace Numeral

/-- Whether a character of ASCII is a letter, a digit or the underscore. -/
def isPlainWord (c : Char) : Bool :=
  c.isAlphanum || c = '_'

/-- Whether a character goes on with a name, be it allowed there or not. -/
def isInName (c : Char) : Bool :=
  isPlainWord c || c.toNat ≥ 128

/--
What follows digits, between which single underscores may stand, or the character that
follows an underscore and is no digit.
-/
def skipDigits (isDigit : Char → Bool) : Text → Except (Option Char) Text
  | [] => .ok []
  | '_' :: d :: s => if isDigit d then skipDigits isDigit s else .error (some d)
  | '_' :: [] => .error none
  | c :: s => if isDigit c then skipDigits isDigit s else .ok (c :: s)

/-- Words that may follow a numeral without a blank. -/
def wordsAfter : List Text :=
  (["and", "else", "for", "or", "not"] : List String).map String.toList

/-- What may follow a numeral without a blank, whatever comes after it. -/
def startsAfter : List Text :=
  (["if", "in", "is"] : List String).map String.toList

/-- Whether a text begins with a word that may follow a numeral. -/
def mayFollow (s : Text) : Bool :=
  startsAfter.any (Text.startsWith · s) ||
    wordsAfter.any fun word => (Text.afterPrefix? word s).any fun rest => !rest.head?.any isInName

/-- Refuses a numeral of a kind that runs into a name. -/
def endNumeral (kind s : Text) : Except LiteralError Text :=
  match s with
  | [] => .ok []
  | c :: _ => if isInName c && !mayFollow s then .error (.badNumeral kind) else .ok s

/-- What is wrong with a numeral of a kind that has a character in the place of a digit. -/
def wrongDigit (kind : Text) : Option Char → LiteralError
  | some c => if c.isDigit then .badDigit c kind else .badNumeral kind
  | none => .badNumeral kind

/-- What follows a numeral in another base, read from behind the letter of the base. -/
def afterBase (kind : Text) (isDigit : Char → Bool) (s : Text) : Except LiteralError Text :=
  match (if s.head? = some '_' then s.drop 1 else s) with
  | [] => .error (wrongDigit kind none)
  | c :: s =>
    if !isDigit c then .error (wrongDigit kind (some c))
    else
      match skipDigits isDigit s with
      | .error c => .error (wrongDigit kind c)
      | .ok [] => .ok []
      | .ok (c :: s) =>
        if c.isDigit then .error (wrongDigit kind (some c)) else endNumeral kind (c :: s)

/-- What follows digits of a decimal numeral. -/
def skipDecimal (s : Text) : Except LiteralError Text :=
  (skipDigits Char.isDigit s).mapError fun _ => .badNumeral "decimal"

/-- What follows the letter of an imaginary number, or the end of a decimal one. -/
def afterExponent (s : Text) : Except LiteralError Text :=
  match s with
  | c :: rest =>
    if c = 'j' || c = 'J' then endNumeral "imaginary" rest else endNumeral "decimal" s
  | [] => .ok []

/-- What follows an exponent, if there is one, and the rest of the numeral. -/
def afterFraction (s : Text) : Except LiteralError Text :=
  match s with
  | e :: rest =>
    if e = 'e' || e = 'E' then
      match rest with
      | c :: digits =>
        if c = '+' || c = '-' then
          match digits with
          | d :: _ =>
            if d.isDigit then (skipDecimal digits).bind afterExponent
            else .error (.badNumeral "decimal")
          | [] => .error (.badNumeral "decimal")
        else if c.isDigit then (skipDecimal rest).bind afterExponent
        else endNumeral "decimal" s
      | [] => endNumeral "decimal" s
    else afterExponent s
  | [] => .ok []

/-- What follows a fraction, read from behind the point, and the rest of the numeral. -/
def afterPoint (s : Text) : Except LiteralError Text :=
  match s with
  | c :: _ => if c.isDigit then (skipDecimal s).bind afterFraction else afterFraction s
  | [] => .ok []

/-- What follows the whole part of a decimal numeral. -/
def afterWhole (s : Text) : Except LiteralError Text :=
  match s with
  | '.' :: s => afterPoint s
  | s => afterFraction s

/-- Whether a numeral goes on behind its whole part. -/
def goesOn (s : Text) : Bool :=
  match s with
  | c :: _ => c ∈ ['.', 'e', 'E', 'j', 'J']
  | [] => false

/-- What follows a numeral that begins with a zero, read from there. -/
def afterZero (s : Text) : Except LiteralError Text := do
  let rest ← skipDecimal s
  let digits := s.take (s.length - rest.length)
  if digits.all (fun c => c = '0' || c = '_') || goesOn rest then afterWhole rest
  else throw .leadingZeros

/-- What follows the numeral that a text begins with. -/
def afterNumeral (s : Text) : Except LiteralError Text :=
  match s with
  | '.' :: s => afterPoint s
  | '0' :: c :: rest =>
    if c = 'x' || c = 'X' then
      afterBase "hexadecimal"
        (fun c => c.isDigit || c.toLower ∈ ['a', 'b', 'c', 'd', 'e', 'f']) rest
    else if c = 'o' || c = 'O' then afterBase "octal" (fun c => '0' ≤ c && c ≤ '7') rest
    else if c = 'b' || c = 'B' then afterBase "binary" (fun c => c = '0' || c = '1') rest
    else afterZero s
  | s => (skipDecimal s).bind afterWhole

/-- The numeral that a text begins with, and what follows it. -/
def read (s : Text) : Except LiteralError (Text × Text) := do
  let rest ← afterNumeral s
  return (s.take (s.length - rest.length), rest)

/-- The digits of a numeral without the underscores. -/
def digits (s : Text) : Text :=
  s.filter (· ≠ '_')

/-- Whether a numeral is imaginary. -/
def isImaginary (s : Text) : Bool :=
  s.getLast?.any fun c => c = 'j' || c = 'J'

/-- The value of a digit, of which letters go on behind nine. -/
def digitValue (c : Char) : Nat :=
  if c.isDigit then c.toNat - '0'.toNat else c.toLower.toNat - 'a'.toNat + 10

/-- The number that digits to a base denote. -/
def ofDigits (base : Nat) (s : Text) : Nat :=
  s.foldl (fun n c => base * n + digitValue c) 0

/-- The letters behind a zero that tell the base. -/
def bases : List (Char × Nat) :=
  [('x', 16), ('o', 8), ('b', 2)]

/-- The whole number that a numeral denotes; fractions and imaginary numbers denote none. -/
def value? (s : Text) : Option Nat :=
  match s with
  | '0' :: c :: rest =>
    match bases.lookup c.toLower with
    | some base => some (ofDigits base (digits rest))
    | none => decimal? s
  | s => decimal? s
where
  decimal? (s : Text) : Option Nat :=
    let own := digits s
    if own.all Char.isDigit then some (ofDigits 10 own) else none

/-- Refuses a decimal numeral with more digits than are read, unless it is zero. -/
def checkLength (s : Text) : Except LiteralError Unit :=
  let own := digits s
  if own.length > Text.digitLimit && own.all Char.isDigit && own.any (· ≠ '0') then
    .error (.tooLong own.length)
  else .ok ()

/-- The least number that is too large to be added to an imaginary one. -/
def sumLimit : Nat := Nat.pow 2 1024 - Nat.pow 2 970

end Numeral
end NoteTemplates
