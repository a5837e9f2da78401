import Mathlib.Data.List.DropRight
import NoteTemplates.Proofs.Verbatim

/-!
# Showing escaped texts

The pieces of a text in which the tags were given other numbers of solidi are those of the text
with the tags so changed, also before more text, if that text does not go on with a tag of the
first one. An escaped text is such a text, up to the solidi at its end; every tag in it stands
behind an odd number of solidi, so none is applied, and all are shown as they stood. What is
shown otherwise is told by `spelled`; `spelled_of_isKept` says when that is the text itself.
-/

namespace NoteTemplates

namespace Markup

open Text (Piece)

/-- The same body behind another number of solidi. -/
def Tag.respell (g : Nat → Nat) (t : Tag) : Tag :=
  { t with escapes := g t.escapes }

/-- A text in which the numbers of solidi before tags are changed. -/
def respelled (g : Nat → Nat) (s : Text) : Text :=
  (Text.cut findTag 0 s).flatMap (Piece.write fun t => (t.respell g).write)

/-- A text with which a tag does not go on. -/
structure IsBreak (u : Text) : Prop where
  head : ∀ c ∈ u.head?, beginsTag c = false
  bracket : bracket? u ≠ some ']'

section Respelling

variable {g : Nat → Nat} {s u : Text} {c : Char}

theorem respelled_write (g : Nat → Nat) {t : Tag} (h : IsBody t.body) (rest : Text) :
    respelled g (t.write ++ rest) = (t.respell g).write ++ respelled g rest := by
  rw [respelled, cut_write h]
  rfl

theorem respelled_cons (g : Nat → Nat) (h : findTag (c :: s) = none) :
    respelled g (c :: s) = c :: respelled g s := by
  rw [respelled, Text.cut_cons_of_none h]
  rfl

theorem respelled_id (s : Text) : respelled id s = s := by
  induction s using tag_induction with
  | nil => rfl
  | tag t rest ht ih => rw [respelled_write id ht, ih]; rfl
  | plain c s hc ih => rw [respelled_cons id hc, ih]

theorem bracket?_write (t : Tag) (rest : Text) : bracket? (t.write ++ rest) = some '[' := by
  rw [bracket?, Tag.write, Tag.text, List.append_assoc, List.find?_append,
    List.find?_replicate]
  simp [isInside]

/-- Solidi are no brackets. -/
theorem bracket?_respelled (g : Nat → Nat) (s : Text) : bracket? (respelled g s) = bracket? s := by
  induction s using tag_induction with
  | nil => rfl
  | tag t rest ht ih => rw [respelled_write g ht, bracket?_write, bracket?_write]
  | plain c s hc ih =>
      rw [respelled_cons g hc, bracket?, bracket?, List.find?_cons, List.find?_cons]
      split
      · rfl
      · exact ih

theorem beginsTag_head?_write (t : Tag) (h : c ∈ t.write.head?) : beginsTag c = false := by
  rw [Tag.write, Tag.text] at h
  cases hescapes : t.escapes with
  | zero =>
      rw [hescapes] at h
      obtain rfl : '[' = c := by simpa using h
      decide
  | succ n =>
      rw [hescapes, List.replicate_succ] at h
      obtain rfl : '\\' = c := by simpa using h
      decide

/-- What can begin a body is no part of a tag that begins there. -/
theorem head?_respelled (h : c ∈ (respelled g s).head?) (hc : beginsTag c = true) :
    c ∈ s.head? := by
  induction s using tag_induction with
  | nil => cases h
  | tag t rest ht ih =>
      rw [respelled_write g ht, List.head?_append_of_ne_nil _ (Tag.write_ne_nil _)] at h
      rw [beginsTag_head?_write _ h] at hc
      cases hc
  | plain d s hd ih =>
      rw [respelled_cons g hd] at h
      exact h

theorem getLast?_respelled (g : Nat → Nat) (s : Text) :
    (respelled g s).getLast? = s.getLast? := by
  have hwrite (t : Tag) : t.write.getLast? = some ']' := by
    rw [t.write_eq_concat, List.getLast?_concat]
  induction s using tag_induction with
  | nil => rfl
  | tag t rest ht ih =>
      rw [respelled_write g ht, List.getLast?_append, List.getLast?_append, ih, hwrite, hwrite]
  | plain c s hc ih =>
      rw [respelled_cons g hc, List.getLast?_cons, List.getLast?_cons, ih]

/-- A bracket that begins no tag begins none before a text with which a tag does not go on. -/
theorem findTag_bracket_respelled (hu : IsBreak u) (h : findTag ('[' :: s) = none) :
    findTag ('[' :: (respelled g s ++ u)) = none := by
  rw [findTag_bracket] at h ⊢
  rintro ⟨⟨c, hc, hbegins⟩, hclose⟩
  have hhead : c ∈ s.head? := by
    rw [List.head?_append] at hc
    cases hr : (respelled g s).head? with
    | none =>
        rw [hr] at hc
        rw [hu.head c hc] at hbegins
        cases hbegins
    | some d =>
        rw [hr] at hc
        obtain rfl : d = c := by simpa using hc
        exact head?_respelled hr hbegins
  refine h ⟨⟨c, hhead, hbegins⟩, ?_⟩
  rw [bracket?, List.find?_append, ← bracket?, bracket?_respelled] at hclose
  cases hs : bracket? s with
  | none =>
      rw [hs] at hclose
      exact absurd hclose hu.bracket
  | some d =>
      rw [hs] at hclose
      exact hclose

/-- No tag comes to be by what follows, unless a text ends with solidi. -/
theorem findTag_respelled (hu : IsBreak u) (hs : s ≠ []) (hlast : s.getLast? ≠ some '\\')
    (h : findTag s = none) : findTag (respelled g s ++ u) = none := by
  induction s with
  | nil => exact absurd rfl hs
  | cons c s ih =>
      rw [respelled_cons g h, List.cons_append]
      by_cases hsolidus : c = '\\'
      · subst hsolidus
        have hne : s ≠ [] := by
          rintro rfl
          exact hlast rfl
        rw [findTag_solidus] at h ⊢
        exact ih hne (by rwa [List.getLast?_cons_of_ne_nil hne] at hlast) h
      · by_cases hbracket : c = '['
        · subst hbracket
          exact findTag_bracket_respelled hu h
        · exact findTag_cons_of_ne hsolidus hbracket _

/-- The pieces of a respelled text before more text, by induction along the pieces. -/
theorem cut_respelled (g : Nat → Nat) (hu : IsBreak u) (hlast : s.getLast? ≠ some '\\') :
    Text.cut findTag 0 (respelled g s ++ u) =
      (Text.cut findTag 0 s).map (Piece.map (Tag.respell g)) ++ Text.cut findTag 0 u := by
  induction s using tag_induction with
  | nil => rfl
  | tag t rest ht ih =>
      have hrest : rest.getLast? ≠ some '\\' := by
        intro h
        rw [List.getLast?_append, h] at hlast
        exact hlast rfl
      rw [respelled_write g ht, List.append_assoc, cut_write (t := t.respell g) ht, ih hrest,
        cut_write ht]
      rfl
  | plain c s hc ih =>
      have hs : s.getLast? ≠ some '\\' := by
        intro h
        rw [List.getLast?_cons, h] at hlast
        exact hlast rfl
      have hwhole := findTag_respelled (g := g) hu (List.cons_ne_nil c s) hlast hc
      rw [respelled_cons g hc, List.cons_append] at hwhole ⊢
      rw [Text.cut_cons_of_none hwhole, ih hs, Text.cut_cons_of_none hc]
      rfl

theorem cut_append (hu : IsBreak u) (hlast : s.getLast? ≠ some '\\') :
    Text.cut findTag 0 (s ++ u) = Text.cut findTag 0 s ++ Text.cut findTag 0 u := by
  have hcut := cut_respelled id hu hlast
  have hid : Piece.map (Tag.respell id) = id := by
    funext piece
    cases piece <;> rfl
  rwa [respelled_id, hid, List.map_id] at hcut

end Respelling

section Solidi

variable {s u : Text}

/-- A text without the reverse solidi at its end. -/
def bare (s : Text) : Text :=
  s.rdropWhile (· = '\\')

/-- How many reverse solidi stand at the end of a text. -/
def solidi (s : Text) : Nat :=
  (s.rtakeWhile (· = '\\')).length

theorem bare_append_solidi (s : Text) : bare s ++ List.replicate (solidi s) '\\' = s := by
  have hsolidi : s.rtakeWhile (· = '\\') = List.replicate (solidi s) '\\' :=
    List.eq_replicate_of_mem fun c hc => by simpa using List.mem_rtakeWhile_imp hc
  rw [← hsolidi]
  exact List.rdropWhile_append_rtakeWhile

theorem getLast?_bare (s : Text) : (bare s).getLast? ≠ some '\\' := by
  intro h
  obtain ⟨hne, hlast⟩ := List.mem_getLast?_eq_getLast (show '\\' ∈ (bare s).getLast? from h)
  exact List.rdropWhile_last_not (· = '\\') s hne (by simpa [bare] using hlast.symm)

theorem findTag_solidi (n : Nat) : findTag (List.replicate n '\\') = none := by
  induction n with
  | zero => rfl
  | succ n ih => rwa [List.replicate_succ, findTag_solidus]

theorem cut_solidi (n : Nat) :
    Text.cut findTag 0 (List.replicate n '\\') = (List.replicate n '\\').map .plain := by
  induction n with
  | zero => rfl
  | succ n ih =>
      have hnone := findTag_solidi (n + 1)
      rw [List.replicate_succ] at hnone ⊢
      rw [Text.cut_cons_of_none hnone, ih, List.map_cons]

theorem isBreak_write (t : Tag) (rest : Text) : IsBreak (t.write ++ rest) := by
  refine ⟨fun c hc => ?_, ?_⟩
  · rw [List.head?_append_of_ne_nil _ t.write_ne_nil] at hc
    exact beginsTag_head?_write t hc
  · rw [bracket?_write]
    decide

theorem isBreak_solidi (n : Nat) : IsBreak (List.replicate n '\\') := by
  constructor
  · intro c hc
    rw [List.eq_of_mem_replicate (List.mem_of_head? hc)]
    decide
  · intro h
    have hmem := List.mem_of_find?_eq_some h
    exact absurd (List.eq_of_mem_replicate hmem) (by decide)

/-- A text that does not end with a solidus, and solidi, end with so many solidi. -/
theorem endsWith_solidi_iff (hlast : s.getLast? ≠ some '\\') (k n : Nat) :
    Text.endsWith (List.replicate k '\\') (s ++ List.replicate n '\\') = true ↔ k ≤ n := by
  rw [Text.endsWith_iff]
  constructor
  · intro h
    by_contra hlt
    have hsuffix := List.suffix_of_suffix_length_le (List.suffix_append s (List.replicate n '\\')) h
      (by simp; omega)
    obtain ⟨front, hfront⟩ := hsuffix
    obtain ⟨before, hbefore⟩ := h
    rw [← hfront, ← List.append_assoc] at hbefore
    obtain rfl := List.append_cancel_right hbefore
    have hlength := congrArg List.length hfront
    have hne : front ≠ [] := by
      rintro rfl
      simp at hlength
      omega
    obtain ⟨c, hc⟩ := List.getLast?_isSome.mpr hne |> Option.isSome_iff_exists.mp
    have hmem : c ∈ List.replicate k '\\' :=
      hfront ▸ List.mem_append_left _ (List.mem_of_getLast? hc)
    rw [List.getLast?_append, hc, List.eq_of_mem_replicate hmem] at hlast
    exact hlast rfl
  · intro hle
    refine List.IsSuffix.trans ⟨List.replicate (n - k) '\\', ?_⟩ (List.suffix_append s _)
    rw [List.replicate_append_replicate, Nat.sub_add_cancel hle]

end Solidi

section Escaping

variable {s style : Text}

/-- How many solidi stand before a tag that is shown behind so many. -/
def escaping (n : Nat) : Nat :=
  2 * n + 1

/-- A single solidus at the end is doubled. -/
def paired (n : Nat) : Nat :=
  if n = 1 then 2 else n

theorem escape_eq (s : Text) :
    escape s = respelled escaping (bare s) ++ List.replicate (paired (solidi s)) '\\' := by
  have hbody : respelled escaping s =
      respelled escaping (bare s) ++ List.replicate (solidi s) '\\' := by
    have hplain (u : Text) :
        (u.map Piece.plain).flatMap (Piece.write fun t : Tag => (t.respell escaping).write) =
          u := by
      induction u with
      | nil => rfl
      | cons c u ih => rw [List.map_cons, List.flatMap_cons, ih]; rfl
    conv_lhs => rw [← bare_append_solidi s]
    rw [respelled, cut_append (isBreak_solidi _) (getLast?_bare s), List.flatMap_append, cut_solidi,
      hplain]
    rfl
  have hlast : (respelled escaping (bare s)).getLast? ≠ some '\\' := by
    rw [getLast?_respelled]
    exact getLast?_bare s
  have hone := endsWith_solidi_iff hlast 1 (solidi s)
  have htwo := endsWith_solidi_iff hlast 2 (solidi s)
  rw [← hbody] at hone htwo
  change (if Text.endsWith (List.replicate 1 '\\') (respelled escaping s) &&
      !Text.endsWith (List.replicate 2 '\\') (respelled escaping s) then
    respelled escaping s ++ ['\\'] else respelled escaping s) = _
  by_cases hsingle : solidi s = 1
  · have hno : Text.endsWith (List.replicate 2 '\\') (respelled escaping s) = false := by
      rw [Bool.eq_false_iff, ne_eq, htwo]
      omega
    rw [hone.mpr (by omega), hno, paired, if_pos hsingle, if_pos (by rfl), hbody, hsingle,
      List.append_assoc]
    rfl
  · rw [if_neg, hbody, paired, if_neg hsingle]
    intro hends
    rw [Bool.and_eq_true, Bool.not_eq_true', hone, Bool.eq_false_iff, ne_eq, htwo] at hends
    omega

/-- The tags of an escaped text stand behind odd numbers of solidi. -/
theorem allEscaped_respell (pieces : List (Piece Tag)) :
    AllEscaped (pieces.map (Piece.map (Tag.respell escaping))) := by
  intro t ht
  obtain ⟨piece, -, hpiece⟩ := List.mem_map.mp ht
  cases piece with
  | plain c => cases hpiece
  | found u =>
      cases hpiece
      change (2 * u.escapes + 1) % 2 = 1
      omega

/-- The pieces of an escaped text. -/
theorem cut_escape (s : Text) :
    Text.cut findTag 0 (escape s) =
      (Text.cut findTag 0 (bare s)).map (Piece.map (Tag.respell escaping)) ++
        (List.replicate (paired (solidi s)) '\\').map .plain := by
  rw [escape_eq, cut_respelled escaping (isBreak_solidi _) (getLast?_bare s), cut_solidi]

/-- A text with a single solidus at its end doubled. -/
def doubled (s : Text) : Text :=
  bare s ++ List.replicate (paired (solidi s)) '\\'

theorem doubled_eq_self (h : solidi s ≠ 1) : doubled s = s := by
  rw [doubled, paired, if_neg h, bare_append_solidi]

/-- A segment as it is shown if it was escaped. -/
def Segment.spelled (screen : Screen) : Segment → Text
  | .plain s => drawn screen (Text.replaceAll "\\[" "[" s)
  | .tag t => List.replicate t.escapes '\\' ++ drawn screen t.text

/-- A text as it is shown if it was escaped, but for the solidi at its end. -/
def spelled (screen : Screen) (s : Text) : Text :=
  (segments s).flatMap (Segment.spelled screen)

/-- A tag behind an odd number of solidi is shown behind half of them. -/
theorem Segment.shown_map_respell (screen : Screen) (segment : Segment) :
    (segment.map (Tag.respell escaping)).shown screen = segment.spelled screen := by
  cases segment with
  | plain s => rfl
  | tag t =>
      have hodd : (2 * t.escapes + 1) % 2 = 1 := by omega
      have hhalf : (2 * t.escapes + 1) / 2 = t.escapes := by omega
      change List.replicate ((2 * t.escapes + 1) / 2) '\\' ++
        (if (2 * t.escapes + 1) % 2 = 1 then drawn screen t.text else []) = _
      rw [hhalf, if_pos hodd]
      rfl

/-- Escaped text is shown as it is spelled. -/
theorem flatMap_shown_respell (screen : Screen) (s : Text) :
    ((segments s).map (Segment.map (Tag.respell escaping))).flatMap (Segment.shown screen) =
      spelled screen s := by
  rw [spelled, List.flatMap_map]
  exact congrArg (List.flatMap · _) (funext fun segment => segment.shown_map_respell screen)

section Fronts

variable {front : Text}

theorem map_respell_plain (g : Nat → Nat) (s : Text) :
    (s.map Piece.plain).map (Piece.map (Tag.respell g)) = s.map .plain := by
  rw [List.map_map]
  rfl

/-- The pieces of an escaped text behind other text. -/
theorem cut_append_escape (h : ∀ c ∈ front, c ≠ '\\' ∧ c ≠ '[') (s : Text) :
    Text.cut findTag 0 (front ++ escape s) =
      (Text.cut findTag 0 (front ++ doubled s)).map (Piece.map (Tag.respell escaping)) := by
  rw [cut_append_of_plain h, cut_append_of_plain h, cut_escape, doubled,
    cut_append (isBreak_solidi _) (getLast?_bare s), cut_solidi, List.map_append,
    List.map_append, map_respell_plain, map_respell_plain]

theorem segments_append_escape (h : ∀ c ∈ front, c ≠ '\\' ∧ c ≠ '[') (s : Text) :
    segments (front ++ escape s) =
      (segments (front ++ doubled s)).map (Segment.map (Tag.respell escaping)) := by
  rw [segments, cut_append_escape h, foldr_cons_map, segments]

theorem allEscaped_append_escape (h : ∀ c ∈ front, c ≠ '\\' ∧ c ≠ '[') (s : Text) :
    AllEscaped (Text.cut findTag 0 (front ++ escape s)) := by
  rw [cut_append_escape h]
  exact allEscaped_respell _

/-- An escaped text behind other text can be shown. -/
theorem plain_append_escape (h : ∀ c ∈ front, c ≠ '\\' ∧ c ≠ '[') (screen : Screen) (s : Text) :
    plain screen (front ++ escape s) = .ok (spelled screen (front ++ doubled s)) := by
  rw [plain_of_allEscaped (allEscaped_append_escape h s), shownText, segments_append_escape h,
    flatMap_shown_respell]

/-- Text without tags, pictures and anything that is left out is shown as it is. -/
structure IsBland (s : Text) : Prop where
  weightless : weight s = 0
  colons : s.countP (· = ':') < 2

instance (s : Text) : Decidable (IsBland s) :=
  decidable_of_iff (weight s = 0 ∧ s.countP (· = ':') < 2)
    ⟨fun ⟨h₁, h₂⟩ => ⟨h₁, h₂⟩, fun ⟨h₁, h₂⟩ => ⟨h₁, h₂⟩⟩

theorem IsBland.unmarked (h : IsBland s) : ∀ c ∈ s, c ≠ '\\' ∧ c ≠ '[' := by
  intro c hc
  have hmarked := weight_eq_zero_iff.mp h.weightless c hc
  constructor
  · rintro rfl
    exact absurd hmarked (by decide)
  · rintro rfl
    exact absurd hmarked (by decide)

theorem IsBland.kept (h : IsBland s) : ∀ c ∈ s, isDropped c = false := by
  intro c hc
  have hmarked := weight_eq_zero_iff.mp h.weightless c hc
  rw [isMarked, Bool.or_eq_false_iff] at hmarked
  exact hmarked.2

/-- Text without tags and pictures is shown as it is. -/
theorem IsBland.flatMap_shown (h : IsBland s) (screen : Screen) :
    ((s.map Piece.plain).foldr Segment.cons []).flatMap (Segment.shown screen) = s := by
  have hunescaped : ¬ "\\[".toList <:+: s := fun hin =>
    (h.unmarked '\\' (hin.subset List.mem_cons_self)).1 rfl
  cases s with
  | nil => rfl
  | cons c s =>
      rw [foldr_cons_plain, List.flatMap_singleton, Segment.shown,
        Text.replaceAll_of_absent (by decide) hunescaped, drawn,
        screen.pictures_eq_self h.colons, visible_of_kept h.kept]

/-- A tag that is applied is not shown. -/
theorem shown_tag_zero (screen : Screen) (body : Text) :
    (Segment.tag ⟨0, body⟩).shown screen = [] := by
  simp [Segment.shown]

/-- An escaped text in a style, behind other text, can be shown. -/
theorem plain_heading (front style : Text) (hfront : IsBland front) (hstyle : IsStyle style)
    (hbody : IsBody style) (screen : Screen) (s : Text) :
    plain screen
        (front ++ (Tag.write ⟨0, style⟩ ++ (escape s ++ Tag.write ⟨0, '/' :: style⟩))) =
      .ok (front ++ (spelled screen (bare s) ++
        (Segment.tag ⟨paired (solidi s), '/' :: style⟩).shown screen)) := by
  have hclose : IsBody ('/' :: style) := ⟨'/', style, rfl, rfl, hbody.isInside⟩
  -- the solidi at the end of the text come to stand before the closing tag and are read with it
  have hjoin : escape s ++ Tag.write ⟨0, '/' :: style⟩ =
      respelled escaping (bare s) ++ (Tag.write ⟨paired (solidi s), '/' :: style⟩ ++ []) := by
    rw [escape_eq, List.append_nil, List.append_assoc]
    rfl
  have hcut := cut_append_of_plain hfront.unmarked
    (Tag.write ⟨0, style⟩ ++ (escape s ++ Tag.write ⟨0, '/' :: style⟩))
  rw [cut_write hbody, hjoin, cut_respelled escaping (isBreak_write _ _) (getLast?_bare s),
    cut_write hclose, ← hjoin] at hcut
  rw [plain_of_style hstyle (allEscaped_plain front) (allEscaped_respell _)
    (allEscaped_plain []) hcut, shownText, segments, hcut, foldr_cons_append_found,
    foldr_cons_append_found, foldr_cons_map, List.flatMap_append, List.flatMap_cons,
    List.flatMap_append, List.flatMap_cons, hfront.flatMap_shown, ← segments,
    flatMap_shown_respell, shown_tag_zero, List.nil_append, Text.cut, List.foldr_nil,
    List.flatMap_nil, List.append_nil]

/-- A word in a style and an escaped text behind it can be shown. -/
theorem plain_warning (word style front : Text) (hword : IsBland word) (hfront : IsBland front)
    (hstyle : IsStyle style) (hbody : IsBody style) (screen : Screen) (s : Text) :
    plain screen (Tag.write ⟨0, style⟩ ++
      (word ++ (Tag.write ⟨0, '/' :: style⟩ ++ (front ++ escape s)))) =
      .ok (word ++ spelled screen (front ++ doubled s)) := by
  have hclose : IsBody ('/' :: style) := ⟨'/', style, rfl, rfl, hbody.isInside⟩
  have hcut : Text.cut findTag 0 (Tag.write ⟨0, style⟩ ++
      (word ++ (Tag.write ⟨0, '/' :: style⟩ ++ (front ++ escape s)))) =
      [] ++ .found ⟨0, style⟩ :: (word.map .plain ++ .found ⟨0, '/' :: style⟩ ::
        Text.cut findTag 0 (front ++ escape s)) := by
    rw [cut_write hbody, cut_append_of_plain hword.unmarked, cut_write hclose]
    rfl
  rw [plain_of_style hstyle (allEscaped_plain []) (allEscaped_plain word)
    (allEscaped_append_escape hfront.unmarked s) hcut, shownText, segments, hcut,
    foldr_cons_append_found, foldr_cons_append_found, List.flatMap_append, List.flatMap_cons,
    List.flatMap_append, List.flatMap_cons, hword.flatMap_shown, ← segments,
    segments_append_escape hfront.unmarked, flatMap_shown_respell, shown_tag_zero, shown_tag_zero]
  rfl

end Fronts

section Kept

variable {screen : Screen}

/-- The stretch of plain text that a segment is, or that a tag is without its solidi. -/
def Segment.stretch : Segment → Text
  | .plain s => s
  | .tag t => t.text

/--
A text that is shown as it is if it was escaped, but for a solidus at its end: no reverse solidus
stands before a bracket outside its tags, none of its characters is left out, and the screen has
no picture for a name in one of its stretches.
-/
structure IsKept (screen : Screen) (s : Text) : Prop where
  unescaped : ∀ run, Segment.plain run ∈ segments s → ¬ "\\[".toList <:+: run
  kept : ∀ c ∈ s, isDropped c = false
  unpictured : ∀ segment ∈ segments s, screen.pictures segment.stretch = segment.stretch

theorem spelled_of_isKept (h : IsKept screen s) : spelled screen s = s := by
  have hwrite : ∀ segment ∈ segments s, segment.spelled screen = segment.write := by
    intro segment hsegment
    have hdrawn : drawn screen segment.stretch = segment.stretch := by
      rw [drawn, h.unpictured segment hsegment]
      refine visible_of_kept fun c hc => h.kept c ?_
      rw [← flatMap_write_segments s]
      refine List.mem_flatMap.mpr ⟨segment, hsegment, ?_⟩
      cases segment with
      | plain run => exact hc
      | tag t => exact List.mem_append_right _ hc
    cases segment with
    | plain run =>
        rw [Segment.spelled, Text.replaceAll_of_absent (by decide) (h.unescaped run hsegment)]
        exact hdrawn
    | tag t => exact congrArg (List.replicate t.escapes '\\' ++ ·) hdrawn
  rw [spelled, List.flatMap_congr hwrite, flatMap_write_segments]

/-- Without solidi and pairs of colons nothing happens to a text on any screen. -/
theorem IsKept.of_notMem (hsolidus : '\\' ∉ s) (hkept : s.countP isDropped = 0)
    (hcolons : s.countP (· = ':') < 2) (screen : Screen) : IsKept screen s := by
  have hstretch : ∀ segment ∈ segments s, segment.stretch.Sublist s := by
    intro segment hsegment
    have hwrite : segment.write.Sublist s := by
      have hflat := List.sublist_flatten_of_mem (List.mem_map_of_mem (f := Segment.write) hsegment)
      rwa [← List.flatMap_def, flatMap_write_segments] at hflat
    refine List.Sublist.trans ?_ hwrite
    cases segment with
    | plain run => exact .refl _
    | tag t => exact List.sublist_append_right _ _
  have hall : ∀ c ∈ s, isDropped c = false := by simpa using hkept
  refine ⟨fun run hrun hin => hsolidus ?_, hall, fun segment hsegment => ?_⟩
  · exact (hstretch _ hrun).subset (hin.subset List.mem_cons_self)
  · exact screen.pictures_eq_self (((hstretch segment hsegment).countP_le).trans_lt hcolons)

end Kept

end Escaping

end Markup
end NoteTemplates
