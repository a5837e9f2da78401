import NoteTemplates.Text.Quoted

/-!
# JSON strings

A text as a JSON string of ASCII characters. A character beyond the sixteen-bit numbers is
written as a pair of surrogates.
-/

namespace NoteTemplates
namespace Text

/-- A sixteen-bit number as a JSON escape. -/
def jsonUnit (n : Nat) : Text :=
  "\\u" ++ hexDigits 4 n

/-- One character inside a JSON string. -/
def jsonChar (c : Char) : Text :=
  let n := c.toNat
  if c = '"' || c = '\\' then ['\\', c]
  else if c = '\n' then "\\n"
  else if c = '\r' then "\\r"
  else if c = '\t' then "\\t"
  else if c = '\x08' then "\\b"
  else if c = '\x0c' then "\\f"
  else if 0x20 ≤ n && n < 0x7F then [c]
  else if n < 0x10000 then jsonUnit n
  else
    jsonUnit (0xD800 + (n - 0x10000) / 0x400) ++ jsonUnit (0xDC00 + (n - 0x10000) % 0x400)

/-- A text as a JSON string. -/
def jsonString (s : Text) : Text :=
  '"' :: (s.flatMap jsonChar ++ ['"'])

end Text
end NoteTemplates
