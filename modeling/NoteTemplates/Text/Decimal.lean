import NoteTemplates.Text.Blank

/-!
# Decimal numbers

Numbers in decimal notation. The digits of every script are read; digits are written in
ASCII. A number may stand between white space, may have a sign, and may have single low
lines between its digits. Numerals of more than 4300 digits are refused, and so is writing
one.
-/

namespace NoteTemplates

/-- Why a text is no number, or a number is not written. -/
inductive NumberError where
  | malformed (text : Text)
  | tooLong (digits : Nat)
  | unwritable
  deriving DecidableEq, Repr

namespace Text

/-- The zeros of all scripts with decimal digits; the nine other digits follow each. -/
def zeroDigits : List Nat :=
  [48, 1632, 1776, 1984, 2406, 2534, 2662, 2790, 2918, 3046, 3174, 3302, 3430, 3558, 3664, 3792,
   3872, 4160, 4240, 6112, 6160, 6470, 6608, 6784, 6800, 6992, 7088, 7232, 7248, 42528, 43216,
   43264, 43472, 43504, 43600, 44016, 65296, 66720, 68912, 69734, 69872, 69942, 70096, 70384,
   70736, 70864, 71248, 71360, 71472, 71904, 72016, 72784, 73040, 73120, 92768, 92864, 93008,
   120782, 120792, 120802, 120812, 120822, 123200, 123632, 125264, 130032]

/-- Digits that stand in no decimal numeral, such as superscripts and circled digits. -/
def otherDigits : List (Nat × Nat) :=
  [(178, 179), (185, 185), (4969, 4977), (6618, 6618), (8304, 8304), (8308, 8313), (8320, 8329),
   (9312, 9320), (9332, 9340), (9352, 9360), (9450, 9450), (9461, 9469), (9471, 9471),
   (10102, 10110), (10112, 10120), (10122, 10130), (68160, 68163), (69216, 69224),
   (69714, 69722), (127232, 127242)]

/-- The value of a decimal digit of any script. -/
def digitValue? (c : Char) : Option Nat :=
  (zeroDigits.find? fun first => first ≤ c.toNat && c.toNat ≤ first + 9).map (c.toNat - ·)

/-- Whether a character is a digit, decimal or not. -/
def isDigit (c : Char) : Bool :=
  (digitValue? c).isSome || inRanges c.toNat otherDigits

/-- The decimal notation of a natural number. -/
def ofNat (n : Nat) : Text :=
  Nat.toDigits 10 n

/-- The decimal notation of an integer. -/
def ofInt : Int → Text
  | .ofNat n => ofNat n
  | .negSucc n => '-' :: ofNat (n + 1)

/-- The number that a list of digit values denotes. -/
def ofDigits (values : List Nat) : Nat :=
  values.foldl (fun n d => 10 * n + d) 0

/-- The most digits that a numeral may have. -/
def digitLimit : Nat := 4300

/-- Whether a number is written: its numeral must not have too many digits. -/
def isWritable (n : Int) : Bool :=
  (ofNat n.natAbs).length ≤ digitLimit

/-- White space around a number: that of ASCII, and all beyond ASCII. -/
def isNumberBlank (c : Char) : Bool :=
  isAsciiBlank c || (128 ≤ c.toNat && isBlank c)

/--
The digits at the beginning of a text, with single low lines between them, and the rest;
`afterDigit` tells whether a digit came right before. There is no answer if a low line does
not stand between two digits.
-/
def readDigits : Bool → Text → Option (List Nat × Text)
  | _, [] => some ([], [])
  | afterDigit, c :: s =>
    if c = '_' then
      if afterDigit && (s.head?.bind digitValue?).isSome then readDigits false s else none
    else
      match digitValue? c with
      | some d => (readDigits true s).map fun (ds, rest) => (d :: ds, rest)
      | none => some ([], c :: s)

/-- A sign and what follows it: whether the number is negative, and the rest. -/
def readSign : Text → Bool × Text
  | '-' :: s => (true, s)
  | '+' :: s => (false, s)
  | s => (false, s)

/-- The integer that a text denotes. -/
def readInt (s : Text) : Except NumberError Int :=
  let (negative, numeral) := readSign (s.dropWhile isNumberBlank)
  match readDigits false numeral with
  | none | some ([], _) => .error (.malformed s)
  | some (digits, rest) =>
    if digits.length > digitLimit then .error (.tooLong digits.length)
    else if rest.all isNumberBlank then
      let n : Int := ofDigits digits
      .ok (if negative then -n else n)
    else .error (.malformed s)

end Text
end NoteTemplates
