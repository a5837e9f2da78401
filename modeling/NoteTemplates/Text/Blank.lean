import NoteTemplates.Text.Printable

/-!
# Blanks

The characters that count as white space at the edges of a text: the white space of
Unicode together with the four information separators. Patterns in templates know a smaller
class, that of ASCII.
-/

namespace NoteTemplates
namespace Text

/-- The code points of white space, as ranges. -/
def blanks : List (Nat × Nat) :=
  [(9, 13), (28, 32), (133, 133), (160, 160), (5760, 5760), (8192, 8202), (8232, 8233),
   (8239, 8239), (8287, 8287), (12288, 12288)]

/-- Whether a character is white space. -/
def isBlank (c : Char) : Bool :=
  inRanges c.toNat blanks

/--
Whether a character is white space of ASCII: blank, tab, line feed, return, form feed, vertical
tab.
-/
def isAsciiBlank (c : Char) : Bool :=
  c = ' ' || (9 ≤ c.toNat && c.toNat ≤ 13)

/-- A text without the white space at its beginning. -/
def stripLeft (s : Text) : Text :=
  s.dropWhile isBlank

/-- A text without the white space at its end. -/
def stripRight (s : Text) : Text :=
  (s.reverse.dropWhile isBlank).reverse

/-- A text without the white space at both ends. -/
def strip (s : Text) : Text :=
  stripRight (stripLeft s)

/-- The words of a text: its longest parts without white space. -/
def words (s : Text) : List Text :=
  (s.foldr
    (fun c ws =>
      if isBlank c then [] :: ws
      else
        match ws with
        | [] => [[c]]
        | w :: ws => (c :: w) :: ws)
    [[]]).filter (!·.isEmpty)

end Text
end NoteTemplates
