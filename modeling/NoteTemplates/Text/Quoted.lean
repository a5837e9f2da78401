import NoteTemplates.Text.Printable

/-!
# Quoted texts

A text between quotation marks, on one line and with nothing invisible in it. Single marks
are used unless the text holds one and no double mark. The reverse solidus and the mark in
use are escaped, so are the three common line controls, and every unprintable character is
written by its number in two, four or eight hexadecimal digits.
-/

namespace NoteTemplates
namespace Text

/-- The lowest `width` hexadecimal digits of a number. -/
def hexDigits (width n : Nat) : Text :=
  let digits := Nat.toDigits 16 n
  List.replicate (width - digits.length) '0' ++ digits

/-- The mark that a text is quoted with. -/
def quoteMark (s : Text) : Char :=
  if s.contains '\'' && !s.contains '"' then '"' else '\''

/-- One character inside a quoted text. -/
def quoteChar (mark c : Char) : Text :=
  if c = mark || c = '\\' then ['\\', c]
  else if c = '\t' then "\\t"
  else if c = '\n' then "\\n"
  else if c = '\r' then "\\r"
  else if isPrintable c then [c]
  else if c.toNat < 0x100 then "\\x" ++ hexDigits 2 c.toNat
  else if c.toNat < 0x10000 then "\\u" ++ hexDigits 4 c.toNat
  else "\\U" ++ hexDigits 8 c.toNat

/-- A text between quotation marks. -/
def quoted (s : Text) : Text :=
  let mark := quoteMark s
  mark :: (s.flatMap (quoteChar mark) ++ [mark])

end Text
end NoteTemplates
