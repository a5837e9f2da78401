/-!
# Text

Text is a list of characters, so that every function on it is a recursion on the list.
This module holds the general operations: splitting at a character and joining again,
taking off a beginning or an ending, cutting a text at the matches of a matcher, and
replacing every occurrence of a pattern.
-/

namespace NoteTemplates

/-- A text is the list of its characters. -/
abbrev Text := List Char

instance : Coe String Text := ⟨String.toList⟩

/-- Texts are compared character by character, so whether a list holds one can be decided. -/
instance : LawfulBEq Text := inferInstanceAs (LawfulBEq (List Char))

namespace Text

/-- The line feed. -/
def newline : Text := "\n"

/-- The parts of a text between the occurrences of a separator; there is always at least one. -/
def splitOn (sep : Char) : Text → List Text
  | [] => [[]]
  | c :: s =>
    if c = sep then [] :: splitOn sep s
    else
      match splitOn sep s with
      | [] => [[c]]
      | part :: parts => (c :: part) :: parts

/-- The parts with a separator between neighbours. -/
def joinWith (sep : Text) : List Text → Text
  | [] => []
  | [part] => part
  | part :: parts => part ++ sep ++ joinWith sep parts

/-- The lines of a text; a final line feed is followed by one more, empty line. -/
def lines (s : Text) : List Text :=
  splitOn '\n' s

/-- Lines put together again. -/
def unlines (ls : List Text) : Text :=
  joinWith newline ls

/-- What follows a given beginning, if the text has it. -/
def afterPrefix? : Text → Text → Option Text
  | [], s => some s
  | _ :: _, [] => none
  | p :: ps, c :: s => if p = c then afterPrefix? ps s else none

/-- Whether a text begins with another. -/
def startsWith (p s : Text) : Bool :=
  (afterPrefix? p s).isSome

/-- Whether a text ends with another. -/
def endsWith (p s : Text) : Bool :=
  startsWith p.reverse s.reverse

/-- The text without the given beginning, if it has it. -/
def dropPrefix (p s : Text) : Text :=
  (afterPrefix? p s).getD s

/-- The text without the given ending, if it has it. -/
def dropSuffix (p s : Text) : Text :=
  (dropPrefix p.reverse s.reverse).reverse

/-- The text before and after the first occurrence of a character; nothing if there is none. -/
def splitFirst? (sep : Char) : Text → Option (Text × Text)
  | [] => none
  | c :: s =>
    if c = sep then some ([], s)
    else (splitFirst? sep s).map fun (before, after) => (c :: before, after)

/-- One piece of a text that was cut: a character that no match covers, or a match. -/
inductive Piece (α : Type) where
  | plain (c : Char)
  | found (a : α)

/--
Cuts a text at its matches, the leftmost first and none overlapping another. The matcher
looks at the beginning of a text; it answers with a match and with the number of
characters that the match covers beyond its first one. The number given to `cut` counts
the characters that the last match still covers.
-/
def cut {α : Type} (find : Text → Option (α × Nat)) : Nat → Text → List (Piece α)
  | _, [] => []
  | covered + 1, _ :: s => cut find covered s
  | 0, c :: s =>
    match find (c :: s) with
    | some (a, more) => .found a :: cut find more s
    | none => .plain c :: cut find 0 s

/-- The pieces of a text put together, with each match written by `write`. -/
def Piece.write {α : Type} (write : α → Text) : Piece α → Text
  | .plain c => [c]
  | .found a => write a

/--
Every occurrence of a pattern replaced, the leftmost first; what is put in is not looked at
again. The empty pattern occurs before each character and at the end.
-/
def replaceAll (pattern value s : Text) : Text :=
  match pattern with
  | [] => value ++ s.flatMap fun c => c :: value
  | _ :: rest =>
    let find t := if startsWith pattern t then some ((), rest.length) else none
    (cut find 0 s).flatMap (Piece.write fun _ => value)

/-- Whether one text comes before or is another, by code point. -/
def le : Text → Text → Bool
  | [], _ => true
  | _ :: _, [] => false
  | c :: s, d :: t => c.toNat < d.toNat || (c = d && le s t)

/-- A text made at least `width` characters long by blanks on its right. -/
def padRight (width : Nat) (s : Text) : Text :=
  s ++ List.replicate (width - s.length) ' '

/-- The number of bytes that a text takes in UTF-8. -/
def byteLength (s : Text) : Nat :=
  s.foldr (fun c n => c.utf8Size + n) 0

/-- Line ends of all kinds turned into line feeds. -/
def unifyLineEnds : Text → Text
  | [] => []
  | '\r' :: '\n' :: s => '\n' :: unifyLineEnds s
  | '\r' :: s => '\n' :: unifyLineEnds s
  | c :: s => c :: unifyLineEnds s

end Text

end NoteTemplates
