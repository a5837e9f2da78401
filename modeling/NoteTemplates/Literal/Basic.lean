import NoteTemplates.Text.Decimal
import NoteTemplates.Text.Quoted

/-!
# Literals

A literal is a number, a text, bytes, a truth value, a tuple, a set or a table, written out.
This module says what can be wrong with one: its characters, its brackets, the order of its
parts, or, if all of that is right, that a part of a set or a key of a table is itself a set
or a table.
-/

namespace NoteTemplates

/--
What an expression is made as. The last kinds are no expressions by themselves: they are the
parts of tables, comparisons, calls, and of what goes through other values.
-/
inductive ExpressionKind where
  | name (s : Text)
  | constant (word : Text)
  | numeral (s : Text)
  | quoted
  | interpolated
  | ellipsis
  | call
  | member
  | sum
  | difference
  | identity
  | negation
  | operation
  | comparison
  | conditional
  | bound
  | starred
  | tuple
  | set
  | table
  | generator
  | setBuilder
  | tableBuilder
  | lambda
  | yielded
  | awaited
  | entry
  | spread
  | membership
  | relation
  | arguments
  | keywordArgument
  | doublyStarredArgument
  | clause
  deriving DecidableEq, Repr

/-- The way in which an escape in a text is wrong. -/
inductive EscapeTrouble where
  | shortTwo
  | shortFour
  | shortEight
  | beyondLast
  | badName
  | unknownName
  deriving DecidableEq, Repr

/-- The way in which a field of an interpolated text is wrong. -/
inductive FieldTrouble where
  | notClosed
  | neverOpened
  | empty
  | missing (sign : Char)
  | reverseSolidus
  | comment
  | unterminated
  | unmatched (bracket : Char)
  | mismatched (closing opening : Char)
  | badConversion
  | tooManyBrackets
  | tooDeep
  deriving DecidableEq, Repr

/-- The way in which the parameters of a function are wrong. -/
inductive ParameterTrouble where
  | lateRequired
  | parenthesized
  | leadingSlash
  | repeatedSlash
  | lateSlash
  | slashBeforeStar
  | bareStar
  | starDefault
  | repeatedStar
  | doubleStarDefault
  | afterDoubleStar
  deriving DecidableEq, Repr

/-- What keeps a text from being a literal. -/
inductive LiteralError where
  | embeddedNull
  | unterminated (long : Bool) (line : Nat)
  | badNumeral (kind : Text)
  | badDigit (digit : Char) (kind : Text)
  | leadingZeros
  | tooLong (digits : Nat)
  | badCharacter (c : Char)
  | hiddenCharacter (c : Char)
  | badContinuation
  | tooDeep
  | unmatched (bracket : Char)
  | mismatched (closing opening : Char) (line : Option Nat)
  | neverClosed (bracket : Char)
  | unexpectedEnd
  | unexpectedIndent
  | unexpectedUnindent
  | strayUnindent
  | mixedIndent
  | tooManyIndents
  | mixedTexts
  | foreignBytes
  | badEscape (first last : Nat) (trouble : EscapeTrouble)
  | badByteEscape (position : Nat)
  | field (trouble : FieldTrouble)
  | inField (e : LiteralError)
  | malformed
  | missingComma
  | missingElse
  | missingColon
  | missingValue
  | starredValue
  | starred
  | doublyStarred
  | statement (word : Text)
  | comparedByName
  | assigned (kind : ExpressionKind)
  | assignedArgument
  | noTarget (kind : ExpressionKind)
  | boundInside (kind : ExpressionKind)
  | bareGenerator
  | starredBuilder
  | bareTargets
  | spreadBuilder
  | starAfterKeywords
  | positionalAfterKeyword
  | positionalAfterSpread
  | missingDefault
  | parameters (trouble : ParameterTrouble)
  | unhashable (kind : Text)
  | unpacked
  | overflow
  | treeTooDeep
  | exhausted
  deriving DecidableEq, Repr

/-- What messages call an expression. -/
def ExpressionKind.text : ExpressionKind → Text
  | name _ => "name"
  | constant word => word
  | numeral _ | quoted => "literal"
  | interpolated => "f-string expression"
  | ellipsis => "ellipsis"
  | call => "function call"
  | member => "attribute"
  | sum | difference | identity | negation | operation => "expression"
  | comparison => "comparison"
  | conditional => "conditional expression"
  | bound => "named expression"
  | starred => "starred"
  | tuple => "tuple"
  | set => "set display"
  | table => "dict literal"
  | generator => "generator expression"
  | setBuilder => "set comprehension"
  | tableBuilder => "dict comprehension"
  | lambda => "lambda"
  | yielded => "yield expression"
  | awaited => "await expression"
  | entry | spread | membership | relation | arguments | keywordArgument
  | doublyStarredArgument | clause => []

def EscapeTrouble.message : EscapeTrouble → Text
  | shortTwo => "truncated \\xXX escape"
  | shortFour => "truncated \\uXXXX escape"
  | shortEight => "truncated \\UXXXXXXXX escape"
  | beyondLast => "illegal Unicode character"
  | badName => "malformed \\N character escape"
  | unknownName => "unknown Unicode character name"

def FieldTrouble.message : FieldTrouble → Text
  | notClosed => "f-string: expecting '\x7d'"
  | neverOpened => "f-string: single '\x7d' is not allowed"
  | empty => "f-string: empty expression not allowed"
  | missing sign => "f-string: expression required before '" ++ [sign] ++ "'"
  | reverseSolidus => "f-string expression part cannot include a backslash"
  | comment => "f-string expression part cannot include '#'"
  | unterminated => "f-string: unterminated string"
  | unmatched bracket => "f-string: unmatched '" ++ [bracket] ++ "'"
  | mismatched closing opening =>
    "f-string: closing parenthesis '" ++ [closing] ++ "' does not match opening parenthesis '" ++
      [opening] ++ "'"
  | badConversion => "f-string: invalid conversion character: expected 's', 'r', or 'a'"
  | tooManyBrackets => "f-string: too many nested parenthesis"
  | tooDeep => "f-string: expressions nested too deeply"

def ParameterTrouble.message : ParameterTrouble → Text
  | lateRequired => "non-default argument follows default argument"
  | parenthesized => "Lambda expression parameters cannot be parenthesized"
  | leadingSlash => "at least one argument must precede /"
  | repeatedSlash => "/ may appear only once"
  | lateSlash => "/ must be ahead of *"
  | slashBeforeStar => "expected comma between / and *"
  | bareStar => "named arguments must follow bare *"
  | starDefault => "var-positional argument cannot have default value"
  | repeatedStar => "* argument may appear only once"
  | doubleStarDefault => "var-keyword argument cannot have default value"
  | afterDoubleStar => "arguments cannot follow var-keyword argument"

/-- The code point of a character as messages show it. -/
def codePoint (c : Char) : Text :=
  let digits := (Nat.toDigits 16 c.toNat).map Char.toUpper
  "U+" ++ List.replicate (4 - digits.length) '0' ++ digits

namespace LiteralError

def message : LiteralError → Text
  | embeddedNull => "source code string cannot contain null bytes"
  | unterminated long line =>
    "unterminated " ++ (if long then "triple-quoted string" else "string") ++
      " literal (detected at line " ++ Text.ofNat line ++ ")"
  | badNumeral kind => "invalid " ++ kind ++ " literal"
  | badDigit digit kind => "invalid digit '" ++ [digit] ++ "' in " ++ kind ++ " literal"
  | leadingZeros =>
    "leading zeros in decimal integer literals are not permitted; " ++
      "use an 0o prefix for octal integers"
  | tooLong digits =>
    "Exceeds the limit (" ++ Text.ofNat Text.digitLimit ++
      " digits) for integer string conversion: value has " ++ Text.ofNat digits ++
      " digits; use sys.set_int_max_str_digits() to increase the limit" ++
      " - Consider hexadecimal for huge integer literals to avoid decimal conversion limits."
  | badCharacter c => "invalid character '" ++ [c] ++ "' (" ++ codePoint c ++ ")"
  | hiddenCharacter c => "invalid non-printable character " ++ codePoint c
  | badContinuation => "unexpected character after line continuation character"
  | tooDeep => "too many nested parentheses"
  | unmatched bracket => "unmatched '" ++ [bracket] ++ "'"
  | mismatched closing opening line =>
    "closing parenthesis '" ++ [closing] ++ "' does not match opening parenthesis '" ++
      [opening] ++ "'" ++
      match line with
      | some line => " on line " ++ Text.ofNat line
      | none => []
  | neverClosed bracket => "'" ++ [bracket] ++ "' was never closed"
  | unexpectedEnd => "unexpected EOF while parsing"
  | unexpectedIndent => "unexpected indent"
  | unexpectedUnindent => "unexpected unindent"
  | strayUnindent => "unindent does not match any outer indentation level"
  | mixedIndent => "inconsistent use of tabs and spaces in indentation"
  | tooManyIndents => "too many levels of indentation"
  | mixedTexts => "cannot mix bytes and nonbytes literals"
  | foreignBytes => "bytes can only contain ASCII literal characters"
  | badEscape first last trouble =>
    "(unicode error) 'unicodeescape' codec can't decode bytes in position " ++
      Text.ofNat first ++ "-" ++ Text.ofNat last ++ ": " ++ trouble.message
  | badByteEscape position => "(value error) invalid \\x escape at position " ++ Text.ofNat position
  | field trouble => trouble.message
  | inField e => "f-string: " ++ e.message
  | malformed => "invalid syntax"
  | missingComma => "invalid syntax. Perhaps you forgot a comma?"
  | missingElse => "expected 'else' after 'if' expression"
  | missingColon => "':' expected after dictionary key"
  | missingValue => "expression expected after dictionary key and ':'"
  | starredValue => "cannot use a starred expression in a dictionary value"
  | starred => "cannot use starred expression here"
  | doublyStarred => "cannot use double starred expression here"
  | statement word =>
    "Missing parentheses in call to '" ++ word ++ "'. Did you mean " ++ word ++ "(...)?"
  | comparedByName => "invalid syntax. Maybe you meant '==' or ':=' instead of '='?"
  | assigned kind =>
    "cannot assign to " ++ kind.text ++ " here. Maybe you meant '==' instead of '='?"
  | assignedArgument => "expression cannot contain assignment, perhaps you meant \"==\"?"
  | noTarget kind => "cannot assign to " ++ kind.text
  | boundInside kind => "cannot use assignment expressions with " ++ kind.text
  | bareGenerator => "Generator expression must be parenthesized"
  | starredBuilder => "iterable unpacking cannot be used in comprehension"
  | bareTargets => "did you forget parentheses around the comprehension target?"
  | spreadBuilder => "dict unpacking cannot be used in dict comprehension"
  | starAfterKeywords => "iterable argument unpacking follows keyword argument unpacking"
  | positionalAfterKeyword => "positional argument follows keyword argument"
  | positionalAfterSpread => "positional argument follows keyword argument unpacking"
  | missingDefault => "expected default value expression"
  | parameters trouble => trouble.message
  | unhashable kind => "unhashable type: '" ++ kind ++ "'"
  | unpacked => "malformed node or string: None"
  | overflow => "int too large to convert to float"
  | treeTooDeep => "maximum recursion depth exceeded during ast construction"
  | exhausted => []

/--
Whether a text could not be read at all, or was read and only its meaning is wrong; in all
other cases its tokens or their order are.
-/
def isAboutMeaning : LiteralError → Bool
  | embeddedNull | unhashable _ | unpacked | overflow | treeTooDeep | exhausted => true
  | _ => false

/-- Whether a token is wrong by itself, wherever it stands. -/
def isAboutToken : LiteralError → Bool
  | unterminated .. | badNumeral _ | badDigit .. | leadingZeros | badCharacter _
  | hiddenCharacter _ | tooDeep | unmatched _ | mismatched .. => true
  | _ => false

/-- What is wrong with an interpolated text if this is wrong with the expression in a field. -/
def ofField (e : LiteralError) : LiteralError :=
  match e with
  | inField _ => e
  | _ => if e.isAboutToken || e.isAboutMeaning then e else inField e

end LiteralError
end NoteTemplates
