import NoteTemplates.Proofs.Tags

/-!
# What is shown of a text

If its tags can be read, a console shows the segments of a text one after the other, each as
the screen shows it. All tags can be read if they stand behind odd numbers of solidi, and also
if there are two more, which open and close a style.
-/

namespace NoteTemplates

/-- A piece with another match. -/
def Text.Piece.map {α β : Type} (f : α → β) : Text.Piece α → Text.Piece β
  | .plain c => .plain c
  | .found a => .found (f a)

namespace Markup

open Text (Piece)

section Segments

variable {screen : Screen}

/-- What a console shows of a segment: a tag behind an odd number of solidi is plain text. -/
def Segment.shown (screen : Screen) : Segment → Text
  | .plain s => drawn screen (Text.replaceAll "\\[" "[" s)
  | .tag t =>
    List.replicate (t.escapes / 2) '\\' ++ if t.escapes % 2 = 1 then drawn screen t.text else []

/-- What a console shows of a text if its tags can be read. -/
def shownText (screen : Screen) (s : Text) : Text :=
  (segments s).flatMap (Segment.shown screen)

theorem Progress.shown_apply {p q : Progress} {position : Nat} {t : Tag}
    (h : p.apply screen position t = .ok q) : q.shown = p.shown := by
  have hbind {α β : Type} {x : Except Failure α} {f : α → Except Failure β} {b : β}
      (hx : x.bind f = .ok b) : ∃ a, x = .ok a ∧ f a = .ok b := by
    cases x with
    | error e => cases hx
    | ok a => exact ⟨a, rfl, hx⟩
  unfold apply at h
  split at h
  · obtain ⟨⟨o, opened⟩, -, h⟩ := hbind h
    obtain ⟨spans, -, h⟩ := hbind h
    cases h
    rfl
  · obtain ⟨name, -, h⟩ := hbind h
    cases h
    rfl

/-- Reading shows the segments one after the other, by induction on them. -/
theorem shown_of_readFrom {position : Nat} {p q : Progress} {segments : List Segment}
    (h : readFrom screen position p segments = .ok q) :
    q.shown = p.shown ++ segments.flatMap (Segment.shown screen) := by
  induction segments generalizing position p with
  | nil =>
      cases h
      exact (List.append_nil _).symm
  | cons segment segments ih =>
      cases segment with
      | plain s =>
          rw [ih h, List.flatMap_cons, ← List.append_assoc]
          rfl
      | tag t =>
          rw [List.flatMap_cons, Segment.shown, ← List.append_assoc, ← List.append_assoc]
          simp only [readFrom] at h
          split at h
          · rename_i hodd
            rw [ih h, if_pos hodd]
            rfl
          · rename_i heven
            rw [if_neg heven, List.append_nil]
            split at h
            · cases h
            · rename_i p' happly
              rw [ih h, Progress.shown_apply happly]
              rfl

/-- A text that can be shown shows what its segments show. -/
theorem plain_eq_ok {s shown : Text} (h : plain screen s = .ok shown) :
    shown = shownText screen s := by
  unfold plain at h
  cases hread : readFrom screen 0 {} (segments s) with
  | error f =>
      rw [hread] at h
      cases h
  | ok p =>
      rw [hread] at h
      change (do (checkSpans p.shown p.allSpans).mapError Failure.number; pure p.shown) = _ at h
      cases hspans : checkSpans p.shown p.allSpans with
      | error e =>
          rw [hspans] at h
          cases h
      | ok =>
          rw [hspans] at h
          cases h
          exact shown_of_readFrom hread

end Segments

section Pieces

theorem found_mem_of_foldr_cons {pieces : List (Piece Tag)} {t : Tag}
    (h : Segment.tag t ∈ pieces.foldr Segment.cons []) : Piece.found t ∈ pieces := by
  induction pieces with
  | nil => cases h
  | cons piece pieces ih =>
      rw [List.foldr_cons] at h
      cases piece with
      | found u =>
          rcases List.mem_cons.mp h with htag | h
          · cases htag
            exact List.mem_cons_self
          · exact List.mem_cons_of_mem _ (ih h)
      | plain c =>
          refine List.mem_cons_of_mem _ (ih ?_)
          generalize pieces.foldr Segment.cons [] = rest at h ⊢
          cases rest with
          | nil => cases h; contradiction
          | cons segment rest =>
              cases segment with
              | plain s => exact List.mem_cons_of_mem _ ((List.mem_cons.mp h).resolve_left nofun)
              | tag u => exact (List.mem_cons.mp h).resolve_left nofun

/-- Tags are segments of their own. -/
theorem foldr_cons_append_found (pieces others : List (Piece Tag)) (t : Tag) :
    (pieces ++ .found t :: others).foldr Segment.cons [] =
      pieces.foldr Segment.cons [] ++ .tag t :: others.foldr Segment.cons [] := by
  induction pieces with
  | nil => rfl
  | cons piece pieces ih =>
      rw [List.cons_append, List.foldr_cons, ih, List.foldr_cons]
      generalize pieces.foldr Segment.cons [] = segments
      cases piece with
      | found u => rfl
      | plain c =>
          cases segments with
          | nil => rfl
          | cons segment segments => cases segment <;> rfl

/-- A segment with another tag. -/
def Segment.map (f : Tag → Tag) : Segment → Segment
  | .plain s => .plain s
  | .tag t => .tag (f t)

/-- The segments of pieces with other tags are the segments with other tags. -/
theorem foldr_cons_map (f : Tag → Tag) (pieces : List (Piece Tag)) :
    (pieces.map (Piece.map f)).foldr Segment.cons [] =
      (pieces.foldr Segment.cons []).map (Segment.map f) := by
  induction pieces with
  | nil => rfl
  | cons piece pieces ih =>
      rw [List.map_cons, List.foldr_cons, ih, List.foldr_cons]
      generalize pieces.foldr Segment.cons [] = segments
      cases piece with
      | found t => rfl
      | plain c =>
          cases segments with
          | nil => rfl
          | cons segment segments => cases segment <;> rfl

end Pieces

section Reading

variable {screen : Screen} {s style : Text} {p : Progress}

/-- Segments whose tags are all shown. -/
def AllShown (run : List Segment) : Prop :=
  ∀ t, Segment.tag t ∈ run → t.escapes % 2 = 1

/-- Pieces whose tags all stand behind odd numbers of solidi. -/
def AllEscaped (pieces : List (Piece Tag)) : Prop :=
  ∀ t, Piece.found t ∈ pieces → t.escapes % 2 = 1

theorem AllEscaped.allShown {pieces : List (Piece Tag)} (h : AllEscaped pieces) :
    AllShown (pieces.foldr Segment.cons []) :=
  fun t ht => h t (found_mem_of_foldr_cons ht)

theorem allEscaped_plain (s : Text) : AllEscaped (s.map .plain) := by
  intro t ht
  simp at ht

theorem Progress.append_append (p : Progress) (s t : Text) :
    (p.append s).append t = p.append (s ++ t) := by
  simp [append]

/-- Segments whose tags are all shown change nothing but what is shown. -/
theorem readFrom_append {run : List Segment} (h : AllShown run) (screen : Screen)
    (position : Nat) (p : Progress) (rest : List Segment) :
    ∃ later, readFrom screen position p (run ++ rest) =
      readFrom screen later (p.append (run.flatMap (Segment.shown screen))) rest := by
  induction run generalizing position p with
  | nil => exact ⟨position, by simp [Progress.append]⟩
  | cons segment run ih =>
      have hrun : AllShown run := fun t ht => h t (List.mem_cons_of_mem _ ht)
      rw [List.flatMap_cons, ← Progress.append_append]
      cases segment with
      | plain s => exact ih hrun (position + s.length) (p.append ((Segment.plain s).shown screen))
      | tag t =>
          have hodd := h t List.mem_cons_self
          obtain ⟨later, hread⟩ := ih hrun (position + t.length)
            (p.append ((Segment.tag t).shown screen))
          refine ⟨later, ?_⟩
          rw [← hread, List.cons_append, readFrom, if_pos hodd, Progress.append_append,
            Segment.shown, if_pos hodd]

/-- Spans whose styles can be read are not refused. -/
theorem checkSpans_eq_ok {spans : List Span}
    (h : ∀ span ∈ spans, ∃ name, Style.canonical span.style = .ok name) (shown : Text) :
    checkSpans shown spans = .ok () := by
  have hforM (spans : List Span)
      (h : ∀ span ∈ spans, ∃ name, Style.canonical span.style = .ok name) :
      (spans.forM fun span => (Style.canonical span.style).map fun _ => ()) =
        (.ok () : Except NumberError Unit) := by
    induction spans with
    | nil => rfl
    | cons span spans ih =>
        obtain ⟨name, hname⟩ := h span List.mem_cons_self
        rw [List.forM, hname]
        exact ih fun other hother => h other (List.mem_cons_of_mem _ hother)
  refine hforM _ fun span hspan => h span ?_
  exact List.mem_reverse.mp (List.mem_filter.mp (List.mem_mergeSort.mp hspan)).1

/-- A text is shown if its segments can be read and its spans have styles that can be read. -/
theorem plain_of_readFrom (hread : readFrom screen 0 {} (segments s) = .ok p)
    (h : ∀ span ∈ p.allSpans, ∃ name, Style.canonical span.style = .ok name) :
    plain screen s = .ok (shownText screen s) := by
  have hplain : plain screen s = .ok p.shown := by
    rw [plain, hread]
    change (do (checkSpans p.shown p.allSpans).mapError Failure.number; pure p.shown) = _
    rw [checkSpans_eq_ok h]
    rfl
  rw [hplain, plain_eq_ok hplain]

/-- A text is shown if all its tags are. -/
theorem plain_of_allEscaped (h : AllEscaped (Text.cut findTag 0 s)) :
    plain screen s = .ok (shownText screen s) := by
  obtain ⟨later, hread⟩ := readFrom_append h.allShown screen 0 {} []
  rw [List.append_nil] at hread
  refine plain_of_readFrom hread fun span hspan => ?_
  cases hspan

/-- The canonical name of a style, as a tag without parameters and without a handler has it. -/
structure IsStyle (style : Text) : Prop where
  canonical : Style.canonical style = .ok style
  stripped : Text.strip style = style
  nonempty : style.isEmpty = false
  unmarked : Text.startsWith handlerMark style = false
  unequal : '=' ∉ style
  opens : '/' ∉ style

instance (style : Text) : Decidable (IsStyle style) :=
  decidable_of_iff
    (Style.canonical style = .ok style ∧ Text.strip style = style ∧ style.isEmpty = false ∧
      Text.startsWith handlerMark style = false ∧ '=' ∉ style ∧ '/' ∉ style)
    ⟨fun ⟨h₁, h₂, h₃, h₄, h₅, h₆⟩ => ⟨h₁, h₂, h₃, h₄, h₅, h₆⟩,
      fun ⟨h₁, h₂, h₃, h₄, h₅, h₆⟩ => ⟨h₁, h₂, h₃, h₄, h₅, h₆⟩⟩

theorem Tag.name_of_notMem {t : Tag} (h : '=' ∉ t.body) : t.name = t.body := by
  rw [name, List.takeWhile_eq_self_iff]
  intro c hc
  have hne : c ≠ '=' := by
    rintro rfl
    exact h hc
  simpa using hne

/-- The name of a style opens it. -/
theorem apply_style (h : IsStyle style) (position : Nat) (p : Progress) :
    p.apply screen position ⟨0, style⟩ =
      .ok { p with opened := ⟨style, none, p.shown.length⟩ :: p.opened } := by
  have hname : Tag.name ⟨0, style⟩ = style := Tag.name_of_notMem h.unequal
  have hparameters : Tag.parameters ⟨0, style⟩ = none := by
    rw [Tag.parameters, Text.splitFirst?_eq_none h.unequal]
    rfl
  rw [Progress.apply, hname]
  split
  · exact absurd (by simp) h.opens
  · rw [h.canonical, hparameters]
    rfl

/-- The name of a style behind a slash closes it. -/
theorem apply_close (h : IsStyle style) (position escapes column : Nat) {p : Progress}
    (hopened : p.opened = [⟨style, none, column⟩]) :
    p.apply screen position ⟨escapes, '/' :: style⟩ = .ok
      { p with opened := [], spans := p.spans ++ [⟨column, p.shown.length, style⟩] } := by
  have hname : Tag.name ⟨escapes, '/' :: style⟩ = '/' :: style := by
    refine Tag.name_of_notMem (t := ⟨escapes, '/' :: style⟩) ?_
    exact List.not_mem_cons_of_ne_of_not_mem (by decide) h.unequal
  have hclosed : closed position ⟨escapes, '/' :: style⟩ (Text.strip style) p.opened =
      .ok (⟨style, none, column⟩, []) := by
    have hfound : close? style [⟨style, none, column⟩] = some (⟨style, none, column⟩, []) :=
      if_pos rfl
    simp only [closed, h.stripped, h.nonempty, h.canonical, hopened, Except.mapError, bind,
      Except.bind, hfound, Bool.false_eq_true, if_false]
    rfl
  have hclose : Opened.close screen ⟨style, none, column⟩ p.shown.length =
      .ok [⟨column, p.shown.length, style⟩] := by
    rw [Opened.close, h.unmarked]
    rfl
  rw [Progress.apply, hname]
  simp only [hclosed]
  change (do
    let spans ← ((Opened.close screen ⟨style, none, column⟩ p.shown.length).mapError Failure.markup)
    _) = _
  rw [hclose]
  rfl

theorem readFrom_style (h : IsStyle style) (position : Nat) (p : Progress)
    (rest : List Segment) :
    ∃ later q column, readFrom screen position p (.tag ⟨0, style⟩ :: rest) =
        readFrom screen later q rest ∧
      q.spans = p.spans ∧ q.opened = ⟨style, none, column⟩ :: p.opened := by
  have heven : ¬ (⟨0, style⟩ : Tag).escapes % 2 = 1 := nofun
  rw [readFrom, if_neg heven, apply_style h]
  exact ⟨_, _, _, rfl, rfl, rfl⟩

/-- The tag that may close a style closes it or is shown. -/
theorem readFrom_close (h : IsStyle style) (position escapes column : Nat) {p : Progress}
    (hopened : p.opened = [⟨style, none, column⟩]) (rest : List Segment) :
    ∃ later q, readFrom screen position p (.tag ⟨escapes, '/' :: style⟩ :: rest) =
        readFrom screen later q rest ∧
      (q.spans = p.spans ∧ q.opened = p.opened ∨
        ∃ last, q.spans = p.spans ++ [⟨column, last, style⟩] ∧ q.opened = []) := by
  rw [readFrom]
  split
  · exact ⟨_, _, rfl, Or.inl ⟨rfl, rfl⟩⟩
  · rw [apply_close h (position + escapes) escapes column (p := p.append _) hopened]
    exact ⟨_, _, rfl, Or.inr ⟨_, rfl, rfl⟩⟩

/-- Whether its tag is closed or left open, the span of a style has that style. -/
theorem style_of_mem_allSpans {p q : Progress} {column : Nat} (hspans : p.spans = [])
    (hopened : p.opened = [⟨style, none, column⟩])
    (hends : q.spans = p.spans ∧ q.opened = p.opened ∨
      ∃ last, q.spans = p.spans ++ [⟨column, last, style⟩] ∧ q.opened = [])
    {span : Span} (hspan : span ∈ q.allSpans) : span.style = style := by
  rw [Progress.allSpans, List.mem_append, List.mem_map] at hspan
  rcases hends with ⟨hq, hq'⟩ | ⟨last, hq, hq'⟩
  · rw [hq, hq', hspans, hopened] at hspan
    obtain ⟨o, ho, rfl⟩ := hspan.resolve_left List.not_mem_nil
    obtain rfl := List.mem_singleton.mp ho
    rfl
  · rw [hq, hq', hspans] at hspan
    rcases hspan with hspan | ⟨o, ho, -⟩
    · obtain rfl := List.mem_singleton.mp hspan
      rfl
    · cases ho

/-- A text is shown if all its tags are but one that opens a style and one that may close it. -/
theorem plain_of_style (h : IsStyle style) {before within behind : List (Piece Tag)}
    {escapes : Nat} (hbefore : AllEscaped before) (hwithin : AllEscaped within)
    (hbehind : AllEscaped behind)
    (hs : Text.cut findTag 0 s = before ++ .found ⟨0, style⟩ :: (within ++
      .found ⟨escapes, '/' :: style⟩ :: behind)) :
    plain screen s = .ok (shownText screen s) := by
  have hsegments := congrArg (List.foldr Segment.cons []) hs
  rw [foldr_cons_append_found, foldr_cons_append_found, ← segments] at hsegments
  obtain ⟨_, hread⟩ := readFrom_append hbefore.allShown screen 0 {}
    (.tag ⟨0, style⟩ ::
    (within.foldr Segment.cons [] ++ .tag ⟨escapes, '/' :: style⟩ :: behind.foldr Segment.cons []))
  obtain ⟨_, p, column, hopen, hspans, hopened⟩ := readFrom_style h _ _ _
  rw [hopen] at hread
  obtain ⟨_, hmore⟩ := readFrom_append hwithin.allShown screen _ p _
  rw [hmore] at hread
  obtain ⟨_, q, hclose, hends⟩ := readFrom_close h _ escapes column (p := p.append _) hopened _
  rw [hclose] at hread
  obtain ⟨_, hrest⟩ := readFrom_append hbehind.allShown screen _ q []
  rw [List.append_nil] at hrest
  rw [hrest, ← hsegments] at hread
  refine plain_of_readFrom hread fun span hspan => ⟨style, ?_⟩
  rw [style_of_mem_allSpans (q := q.append _) hspans hopened hends hspan, h.canonical]

end Reading

end Markup
end NoteTemplates
