import NoteTemplates.Failure
import NoteTemplates.Text.Cells

/-!
# Screens

A console shows its lines on a screen. A screen has columns, and a line that does not fit is
broken into lines that do; it may have pictures for names between colons; and it takes the
arguments of a handler or refuses them. Where exactly a line is broken, which names have
pictures and which arguments are taken is up to the screen: what is said about consoles holds
for all screens that keep the laws given here.
-/

namespace NoteTemplates

/--
Whether a line fits into columns. At the end of a line that has more characters than there
are columns, white space does not fit, even where it takes no column.
-/
def Text.fits (columns : Nat) (line : Text) : Bool :=
  width line ≤ columns && (line.length ≤ columns || !line.getLast?.any isBlank)

/-- Whether a picture may hold a character: no blank, no control, and no mark of texts with tags. -/
def Text.isPictureChar (c : Char) : Bool :=
  !isBlank c && 32 < c.toNat && c ∉ [':', '[', ']', '\\']

/-- A text, and the same text with some of its names between colons turned into pictures. -/
inductive Text.Pictured : Text → Text → Prop
  | nil : Pictured [] []
  | plain (c : Char) {s t : Text} (rest : Pictured s t) : Pictured (c :: s) (c :: t)
  | code {name picture s t : Text} (solid : ∀ c ∈ name, isBlank c = false)
      (drawn : ∀ c ∈ picture, isPictureChar c = true) (rest : Pictured s t) :
      Pictured (':' :: (name ++ ':' :: s)) (picture ++ t)

theorem Text.Pictured.refl : (s : Text) → Pictured s s
  | [] => .nil
  | c :: s => .plain c (refl s)

/--
A screen: its columns, what it makes of names between colons, the lines into which it breaks
one that does not fit, and whether it takes the arguments of a handler. Breaking a line leaves
out white space and what is wider than the screen, and puts in nothing but blanks.
-/
structure Screen where
  columns : Nat
  pictures : Text → Text
  broken : Text → List Text
  handlers : Text → Except MarkupError Unit
  columns_pos : 0 < columns
  pictured : ∀ s, Text.Pictured s (pictures s)
  broken_fits : ∀ line, Text.fits columns line = false →
    ∀ piece ∈ broken line, Text.fits columns piece = true
  broken_sublist : ∀ line, ((broken line).flatten.filter (· ≠ ' ')).Sublist line

namespace Screen

/-- A line as the lines that are shown for it. -/
def lay (screen : Screen) (line : Text) : List Text :=
  if Text.fits screen.columns line then [line] else screen.broken line

/-- A text as it stands on the screen: tabs become blanks, and lines are broken that do not fit. -/
def layOut (screen : Screen) (s : Text) : Text :=
  Text.unlines ((Text.lines (Text.expandTabs s)).flatMap screen.lay)

section Folding

variable {columns : Nat}

/-- A character by itself, or a blank where the character is wider than the screen. -/
def narrow (columns : Nat) (c : Char) : Char :=
  if Text.width [c] ≤ columns then c else ' '

/-- A line behind a piece, cut wherever the columns are used up. -/
def fold (columns : Nat) : Text → Text → List Text
  | piece, [] => [piece]
  | piece, c :: s =>
    let longer := piece ++ [narrow columns c]
    if longer.length ≤ columns && Text.width longer ≤ columns then fold columns longer s
    else piece :: fold columns [narrow columns c] s

theorem width_narrow_le (h : 0 < columns) (c : Char) :
    Text.width [narrow columns c] ≤ columns := by
  have hblank : Text.width [' '] = 1 := by decide +kernel
  rw [narrow]
  split
  · assumption
  · rwa [hblank]

theorem fits_of_le {piece : Text} (hlength : piece.length ≤ columns)
    (hwidth : Text.width piece ≤ columns) : Text.fits columns piece = true := by
  simp [Text.fits, hlength, hwidth]

/-- Every piece fits, by induction on the line. -/
theorem fits_of_mem_fold (h : 0 < columns) {line piece part : Text}
    (hlength : piece.length ≤ columns) (hwidth : Text.width piece ≤ columns)
    (hpart : part ∈ fold columns piece line) : Text.fits columns part = true := by
  induction line generalizing piece with
  | nil =>
      obtain rfl := List.mem_singleton.mp hpart
      exact fits_of_le hlength hwidth
  | cons c line ih =>
      rw [fold] at hpart
      split at hpart
      · rename_i hlonger
        rw [Bool.and_eq_true, decide_eq_true_eq, decide_eq_true_eq] at hlonger
        exact ih hlonger.1 hlonger.2 hpart
      · rcases List.mem_cons.mp hpart with rfl | hpart
        · exact fits_of_le hlength hwidth
        · have hone : [narrow columns c].length ≤ columns := h
          exact ih hone (width_narrow_le h c) hpart

theorem flatten_fold (columns : Nat) (piece line : Text) :
    (fold columns piece line).flatten = piece ++ line.map (narrow columns) := by
  induction line generalizing piece with
  | nil => simp [fold]
  | cons c line ih =>
      rw [fold]
      split
      · rw [ih]
        simp
      · rw [List.flatten_cons, ih]
        simp

theorem sublist_map_narrow (columns : Nat) (line : Text) :
    ((line.map (narrow columns)).filter (· ≠ ' ')).Sublist line := by
  induction line with
  | nil => exact .refl _
  | cons c line ih =>
      rw [List.map_cons, narrow]
      split
      · rw [List.filter_cons]
        split
        · exact ih.cons_cons c
        · exact ih.cons c
      · exact ih.cons c

/-- A screen without pictures, on which a line goes on in the next one wherever it is cut off. -/
def folding (columns : Nat) (h : 0 < columns) (handlers : Text → Except MarkupError Unit) :
    Screen where
  columns
  pictures := id
  broken := fold columns []
  handlers
  columns_pos := h
  pictured := Text.Pictured.refl
  broken_fits _ _ _ := fits_of_mem_fold h (Nat.zero_le _) (Nat.zero_le _)
  broken_sublist line := by
    rw [flatten_fold, List.nil_append]
    exact sublist_map_narrow columns line

end Folding

end Screen
end NoteTemplates
