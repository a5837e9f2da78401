import NoteTemplates.Console.Markup
import NoteTemplates.Proofs.Texts

/-!
# What a screen does to a text

Which pictures a screen has and where it breaks a line is left open, but its laws say enough. A
text with less than two colons has no pictures; a text that has one loses colons. A line stays
one line if and only if it fits, and every line that stands on a screen fits. Nothing comes to
be shown but blanks, line ends and pictures, so what is counted of other characters does not grow.
-/

namespace NoteTemplates

namespace Text

section Counting

variable {p : Char → Bool} {sep : Char}

theorem countP_joinWith (hsep : p sep = false) (parts : List Text) :
    (joinWith [sep] parts).countP p = parts.flatten.countP p := by
  induction parts with
  | nil => rfl
  | cons part parts ih =>
      cases parts with
      | nil => simp [joinWith]
      | cons next parts =>
          rw [joinWith, List.countP_append, List.countP_append, ih, List.countP_singleton, hsep,
            List.flatten_cons, List.countP_append]
          · simp
          · simp

/-- What does not count separators counts the parts of a text. -/
theorem countP_flatten_splitOn (hsep : p sep = false) (s : Text) :
    (splitOn sep s).flatten.countP p = s.countP p := by
  rw [← countP_joinWith hsep, joinWith_splitOn]

theorem countP_joinAtStops (hblank : p ' ' = false) (column : Nat) (parts : List Text) :
    (joinAtStops column parts).countP p = parts.flatten.countP p := by
  induction parts generalizing column with
  | nil => rfl
  | cons part parts ih =>
      cases parts with
      | nil => simp [joinAtStops]
      | cons next parts =>
          rw [List.flatten_cons, List.countP_append]
          simp only [joinAtStops, List.countP_append, ih, List.countP_replicate,
            List.countP_singleton, hblank]
          simp

/-- Turning tabs into blanks keeps the count of everything else. -/
theorem countP_expandTabs (hline : p '\n' = false) (htab : p '\t' = false)
    (hblank : p ' ' = false) (s : Text) : (expandTabs s).countP p = s.countP p := by
  have hlines (lines : List Text) :
      (lines.map fun line => joinAtStops 0 (splitOn '\t' line)).flatten.countP p =
        lines.flatten.countP p := by
    induction lines with
    | nil => rfl
    | cons line lines ih =>
        rw [List.map_cons, List.flatten_cons, List.flatten_cons, List.countP_append,
          List.countP_append, ih, countP_joinAtStops hblank, countP_flatten_splitOn htab]
  rw [expandTabs, countP_joinWith hline, hlines, countP_flatten_splitOn hline]

end Counting

section Pictures

variable {p : Char → Bool} {s t : Text}

theorem Pictured.countP_le (hp : ∀ c, isPictureChar c = true → p c = false)
    (h : Pictured s t) : t.countP p ≤ s.countP p := by
  induction h with
  | nil => exact Nat.le_refl _
  | plain c rest ih =>
      rw [List.countP_cons, List.countP_cons]
      exact Nat.add_le_add_right ih _
  | @code name picture s t solid drawn rest ih =>
      have hpicture : picture.countP p = 0 :=
        List.countP_eq_zero.mpr fun c hc => by simp [hp c (drawn c hc)]
      simp only [List.countP_append, List.countP_cons, hpicture]
      omega

/-- A text with pictures has two colons less for each, so it is told from the text by them. -/
theorem Pictured.eq_or_countP_lt (h : Pictured s t) :
    t = s ∨ t.countP (· = ':') + 2 ≤ s.countP (· = ':') := by
  have hcolon : ∀ c, isPictureChar c = true → decide (c = ':') = false := by
    rintro c hc
    refine decide_eq_false ?_
    rintro rfl
    exact absurd hc (by decide)
  induction h with
  | nil => exact Or.inl rfl
  | @plain c s t rest ih =>
      rw [List.countP_cons, List.countP_cons]
      rcases ih with rfl | hlt
      · exact Or.inl rfl
      · exact Or.inr (by omega)
  | @code name picture s t solid drawn rest ih =>
      have hrest := rest.countP_le hcolon
      have hpicture : picture.countP (· = ':') = 0 :=
        List.countP_eq_zero.mpr fun c hc => by simp [hcolon c (drawn c hc)]
      refine Or.inr ?_
      simp only [List.countP_append, List.countP_cons, hpicture]
      simp
      omega

end Pictures

end Text

namespace Screen

variable {screen : Screen} {s line : Text}

/-- Where there are no two colons there is no picture. -/
theorem pictures_eq_self (screen : Screen) (h : s.countP (· = ':') < 2) :
    screen.pictures s = s :=
  (screen.pictured s).eq_or_countP_lt.resolve_right (by omega)

theorem countP_pictures_le {p : Char → Bool}
    (hp : ∀ c, Text.isPictureChar c = true → p c = false) :
    (screen.pictures s).countP p ≤ s.countP p :=
  (screen.pictured s).countP_le hp

section Lines

theorem lay_of_fits (h : Text.fits screen.columns line = true) : screen.lay line = [line] :=
  if_pos h

/-- What a line is broken into fits. -/
theorem fits_of_mem_lay {piece : Text} (h : piece ∈ screen.lay line) :
    Text.fits screen.columns piece = true := by
  rw [lay] at h
  split at h
  · rename_i hfits
    exact List.mem_singleton.mp h ▸ hfits
  · rename_i hfits
    exact screen.broken_fits line (by simpa using hfits) piece h

theorem countP_lay_le {p : Char → Bool} (hblank : p ' ' = false) (screen : Screen)
    (line : Text) : (screen.lay line).flatten.countP p ≤ line.countP p := by
  rw [lay]
  split
  · simp
  · -- the law leaves blanks out, which are not counted
    have hkept : ((screen.broken line).flatten.filter (· ≠ ' ')).countP p =
        (screen.broken line).flatten.countP p := by
      rw [List.countP_filter]
      refine List.countP_congr fun c _ => ?_
      by_cases hc : c = ' '
      · subst hc
        simp [hblank]
      · simp [hc]
    rw [← hkept]
    exact (screen.broken_sublist line).countP_le

theorem notMem_of_mem_lay {piece : Text} {c : Char} (hc : c ≠ ' ') (hline : c ∉ line)
    (h : piece ∈ screen.lay line) : c ∉ piece := by
  intro hmem
  have hcount := countP_lay_le (p := (· = c)) (decide_eq_false (Ne.symm hc)) screen line
  have hnone : line.countP (· = c) = 0 := by
    refine List.countP_eq_zero.mpr fun d hd heq => ?_
    exact hline (of_decide_eq_true heq ▸ hd)
  rw [hnone, Nat.le_zero, List.countP_eq_zero] at hcount
  exact hcount c (List.mem_flatten_of_mem h hmem) (by simp)

theorem flatMap_lay_eq {lines : List Text}
    (h : ∀ line ∈ lines, Text.fits screen.columns line = true) :
    lines.flatMap screen.lay = lines := by
  induction lines with
  | nil => rfl
  | cons line lines ih =>
      obtain ⟨hline, hlines⟩ := List.forall_mem_cons.mp h
      rw [List.flatMap_cons, lay_of_fits hline, ih hlines]
      rfl

end Lines

/-- Every line that stands on a screen fits. -/
theorem fits_of_mem_lines_layOut (h : line ∈ Text.lines (screen.layOut s)) :
    Text.fits screen.columns line = true := by
  have hfits : ∀ piece ∈ (Text.lines (Text.expandTabs s)).flatMap screen.lay,
      Text.fits screen.columns piece = true ∧ '\n' ∉ piece := by
    intro piece hpiece
    obtain ⟨whole, hwhole, hpiece⟩ := List.mem_flatMap.mp hpiece
    exact ⟨fits_of_mem_lay hpiece,
      notMem_of_mem_lay (by decide) (Text.notMem_of_mem_splitOn hwhole) hpiece⟩
  -- no piece holds a line end, so the pieces are the lines that are read back
  rw [layOut, Text.lines] at h
  generalize (Text.lines (Text.expandTabs s)).flatMap screen.lay = pieces at h hfits
  cases pieces with
  | nil =>
      obtain rfl : line = [] := List.mem_singleton.mp h
      simp [Text.fits, Text.width, Text.widthFrom]
  | cons piece pieces =>
      have hsplit : Text.splitOn '\n' (Text.joinWith ['\n'] (piece :: pieces)) = piece :: pieces :=
        Text.splitOn_joinWith (by simp) fun line hline => (hfits line hline).2
      rw [show Text.unlines (piece :: pieces) = Text.joinWith ['\n'] (piece :: pieces) from rfl,
        hsplit] at h
      exact (hfits line h).1

/-- A text is laid out as it is, but for tabs, if and only if all its lines fit. -/
theorem layOut_eq_expandTabs_iff :
    screen.layOut s = Text.expandTabs s ↔
      ∀ line ∈ Text.lines (Text.expandTabs s), Text.fits screen.columns line = true := by
  constructor
  · intro h line hline
    rw [← h] at hline
    exact fits_of_mem_lines_layOut hline
  · intro h
    rw [layOut, flatMap_lay_eq h]
    exact Text.joinWith_splitOn '\n' _

/-- Laying a text out brings nothing in but blanks and line ends. -/
theorem countP_layOut_le {p : Char → Bool} (hline : p '\n' = false) (htab : p '\t' = false)
    (hblank : p ' ' = false) (s : Text) : (screen.layOut s).countP p ≤ s.countP p := by
  have hlines (lines : List Text) :
      (lines.flatMap screen.lay).flatten.countP p ≤ lines.flatten.countP p := by
    induction lines with
    | nil => exact Nat.le_refl _
    | cons line lines ih =>
        rw [List.flatMap_cons, List.flatten_append, List.flatten_cons, List.countP_append,
          List.countP_append]
        exact Nat.add_le_add (countP_lay_le hblank screen line) ih
  have hjoined : (screen.layOut s).countP p =
      ((Text.lines (Text.expandTabs s)).flatMap screen.lay).flatten.countP p :=
    Text.countP_joinWith hline _
  have hcut : (Text.lines (Text.expandTabs s)).flatten.countP p = s.countP p := by
    rw [Text.lines, Text.countP_flatten_splitOn hline, Text.countP_expandTabs hline htab hblank]
  rw [hjoined, ← hcut]
  exact hlines _

end Screen

end NoteTemplates
