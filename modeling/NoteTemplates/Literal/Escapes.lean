import NoteTemplates.Literal.Expression
import NoteTemplates.Text.CharacterNames

/-!
# Escapes in literals

The escapes in quoted texts must be complete: two, four or eight hexadecimal digits, or a
name in braces. Texts that stand side by side are one text, so they must all be bytes or
none of them.
-/

namespace NoteTemplates
namespace QuotedText

/-- Whether a character is a hexadecimal digit. -/
def isHexDigit (c : Char) : Bool :=
  c.isDigit || ('a' ≤ c.toLower && c.toLower ≤ 'f')

/-- The hexadecimal digits that a text begins with, at most so many. -/
def hexRun (count : Nat) (s : Text) : Text :=
  (s.take count).takeWhile isHexDigit

/-- The number that hexadecimal digits denote. -/
def hexNumber (s : Text) : Nat :=
  s.foldl (fun n c => 16 * n + (if c.isDigit then c.toNat - 48 else c.toLower.toNat - 87)) 0

/-- The last code point. -/
def lastCodePoint : Nat := 0x10FFFF

/-- The letters of escapes with digits: how many digits, and what too few of them are. -/
def digitEscapes : List (Char × Nat × EscapeTrouble) :=
  [('x', 2, .shortTwo), ('u', 4, .shortFour), ('U', 8, .shortEight)]

/-- How many positions a character takes that is itself no escape. -/
def positions (c : Char) : Nat :=
  if c.toNat < 128 then 1 else 10

/-- How many positions a reverse solidus takes before a character. -/
def solidusPositions (c : Char) : Nat :=
  if c.toNat < 128 then 1 else 6

/-- How many positions characters take that are no escapes. -/
def positionsOf : Text → Nat
  | [] => 0
  | '\\' :: c :: s => solidusPositions c + positions c + positionsOf s
  | c :: s => positions c + positionsOf s

/-- What is wrong with an escape at a position, whose letter and whose rest are given. -/
def escapeFault? (position : Nat) (c : Char) (s : Text) : Option LiteralError :=
  if c = 'N' then
    match s with
    | '\x7b' :: rest =>
      match rest.takeWhile (· ≠ '\x7d') with
      | [] => some (.badEscape position (position + 2) .badName)
      | name =>
        let last := position + 2 + positionsOf name
        if name.length = rest.length then some (.badEscape position last .badName)
        else if Text.isCharacterName name then none
        else some (.badEscape position (last + 1) .unknownName)
    | _ => some (.badEscape position (position + 1) .badName)
  else
    match digitEscapes.lookup c with
    | none => none
    | some (count, trouble) =>
      let run := hexRun count s
      let last := position + 1 + run.length
      if run.length < count then some (.badEscape position last trouble)
      else if hexNumber run > lastCodePoint then some (.badEscape position last .beyondLast)
      else none

/-- The first escape of a text, read from a position on, that is wrong. -/
def textFault? : Nat → Text → Option LiteralError
  | _, [] => none
  | position, '\\' :: c :: s =>
    (escapeFault? position c s).or
      (textFault? (position + solidusPositions c + positions c) s)
  | position, c :: s => textFault? (position + positions c) s

/-- The first escape of bytes, read from a position on, that is wrong. -/
def bytesFault? : Nat → Text → Option LiteralError
  | _, [] => none
  | position, '\\' :: c :: s =>
    if c = 'x' && (hexRun 2 s).length < 2 then some (.badByteEscape position)
    else bytesFault? (position + 2) s
  | position, _ :: s => bytesFault? (position + 1) s

/-- What is wrong within a quoted text. -/
def fault? (t : QuotedText) : Option LiteralError :=
  if t.isBytes && t.body.any (·.toNat ≥ 128) then some .foreignBytes
  else if t.isRaw || t.isInterpolated then none
  else if t.isBytes then bytesFault? 0 t.body
  else textFault? 0 t.body

/-- Refuses quoted texts side by side that are wrong or do not go together. -/
def checkAll (check : QuotedText → Except LiteralError Unit) (areBytes : Bool) :
    List QuotedText → Except LiteralError Unit
  | [] => .ok ()
  | t :: ts => do
    match t.fault? with
    | some e => throw e
    | none =>
      if t.isBytes ≠ areBytes then throw .mixedTexts
      if t.isInterpolated then check t
      checkAll check areBytes ts

/--
The text that quoted texts side by side are, or what is wrong with them; it is given how those
with fields are checked.
-/
def join (check : QuotedText → Except LiteralError Unit) (ts : List QuotedText) :
    Except LiteralError Expression := do
  checkAll check (ts.head?.any (·.isBytes)) ts
  return .of (if ts.any (·.isInterpolated) then .interpolated else .quoted) []

end QuotedText
end NoteTemplates
