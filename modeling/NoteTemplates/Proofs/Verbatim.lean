import NoteTemplates.Proofs.Showing

/-!
# Texts that are shown as they are

A console shows a text as it is if no tag stands in it, no reverse solidus stands before an
opening bracket, none of its characters is left out, and the screen has no picture for a name
in it. There are no other such texts: whatever a console does to a text, less of its opening
brackets, reverse solidi and characters to be left out are shown, or less of its colons. The
former are counted by `weight`, which neither pictures nor the laying out of lines increase.
-/

namespace NoteTemplates

namespace Text

section Stretches

variable {p s t u : Text} {c : Char}

theorem replaceAll_of_absent (hp : p ≠ []) (h : ¬ p <:+: s) (value : Text) :
    replaceAll p value s = s := by
  induction s with
  | nil => exact replaceAll_nil hp value
  | cons c s ih =>
      rw [List.infix_cons_iff, not_or] at h
      rw [replaceAll_cons hp h.1, ih h.2]

/-- A beginning whose last character is not behind a text is a beginning of the text. -/
theorem concat_prefix_of_append (hc : c ∉ t) (h : u ++ [c] <+: s ++ t) : u ++ [c] <+: s := by
  obtain ⟨rest, hrest⟩ := h
  rcases List.append_eq_append_iff.mp hrest with ⟨between, hs, -⟩ | ⟨between, hu, ht⟩
  · exact ⟨between, hs.symm⟩
  · cases hbetween : between.reverse with
    | nil =>
        obtain rfl := List.reverse_eq_nil_iff.mp hbetween
        exact ⟨[], by simpa using hu⟩
    | cons d before =>
        obtain rfl : between = before.reverse ++ [d] := by
          simpa using congrArg List.reverse hbetween
        rw [← List.append_assoc] at hu
        obtain ⟨-, rfl⟩ : u = s ++ before.reverse ∧ c = d := by simpa using List.append_inj' hu rfl
        exact absurd (by simp [ht]) hc

end Stretches

end Text

namespace Markup

/-- A text that a console shows as it is on a screen without pictures. -/
structure IsVerbatim (s : Text) : Prop where
  untagged : HasNoTags s
  unescaped : ¬ "\\[".toList <:+: s
  kept : ∀ c ∈ s, isDropped c = false

instance (s : Text) : Decidable (IsVerbatim s) :=
  decidable_of_iff
    (HasNoTags s ∧ ¬ "\\[".toList <:+: s ∧ (s.all fun c => !isDropped c) = true) <| by
    rw [List.all_eq_true]
    simp only [Bool.not_eq_true']
    exact ⟨fun h => ⟨h.1, h.2.1, h.2.2⟩, fun h => ⟨h.untagged, h.unescaped, h.kept⟩⟩

/-- Whether a console may do anything about a character. -/
def isMarked (c : Char) : Bool :=
  c = '[' || c = '\\' || isDropped c

/-- How many characters of a text a console may do anything about. -/
def weight (s : Text) : Nat :=
  s.countP isMarked

section Weight

variable {screen : Screen} {s t : Text}

theorem weight_append (s t : Text) : weight (s ++ t) = weight s + weight t :=
  List.countP_append

theorem weight_cons (c : Char) (s : Text) : weight (c :: s) = weight [c] + weight s :=
  weight_append [c] s

theorem weight_eq_zero_iff : weight s = 0 ↔ ∀ c ∈ s, isMarked c = false := by
  simp [weight]

theorem weight_solidi (n : Nat) : weight (List.replicate n '\\') = n := by
  rw [weight, List.countP_replicate]
  exact if_pos (by decide)

theorem weight_expandTabs (s : Text) : weight (Text.expandTabs s) = weight s :=
  Text.countP_expandTabs (by decide) (by decide) (by decide) s

theorem isMarked_of_isPictureChar (c : Char) (h : Text.isPictureChar c = true) :
    isMarked c = false := by
  rw [← Bool.not_eq_true]
  intro hmarked
  simp only [isMarked, isDropped, Bool.or_eq_true, decide_eq_true_eq] at hmarked
  rcases hmarked with (rfl | rfl) | (((rfl | rfl) | rfl) | rfl) | rfl <;>
    exact absurd h (by decide)

/-- No screen makes a text heavier. -/
theorem weight_pictures_le (screen : Screen) (s : Text) :
    weight (screen.pictures s) ≤ weight s :=
  Screen.countP_pictures_le isMarked_of_isPictureChar

theorem weight_layOut_le (screen : Screen) (s : Text) : weight (screen.layOut s) ≤ weight s :=
  Screen.countP_layOut_le (by decide) (by decide) (by decide) s

/-- The characters that are left out are those that a text weighs less without. -/
theorem weight_visible_add (s : Text) : weight (visible s) + s.countP isDropped = weight s := by
  induction s with
  | nil => rfl
  | cons c s ih =>
      rw [weight_cons c s, ← ih, visible, List.filter_cons, List.countP_cons]
      cases hc : isDropped c with
      | false =>
          simp only [Bool.not_false, if_true, weight_cons c (s.filter _), visible]
          simp
          omega
      | true =>
          have hmarked : weight [c] = 1 := by simp [weight, isMarked, hc]
          rw [hmarked]
          simp [visible]
          omega

theorem weight_replaceAll_le (s : Text) : weight (Text.replaceAll "\\[" "[" s) ≤ weight s := by
  have hp : "\\[".toList ≠ [] := by decide
  induction s using Text.replace_induction hp with
  | nil => rw [Text.replaceAll_nil hp]
  | occurs s ih =>
      rw [Text.replaceAll_append hp, weight_append, weight_append]
      exact Nat.add_le_add (by decide) ih
  | plain c s hc ih =>
      rw [Text.replaceAll_cons hp hc, weight_cons c, weight_cons c s]
      exact Nat.add_le_add_left ih _

theorem weight_replaceAll_lt (h : "\\[".toList <:+: s) :
    weight (Text.replaceAll "\\[" "[" s) < weight s := by
  have hp : "\\[".toList ≠ [] := by decide
  induction s using Text.replace_induction hp with
  | nil => exact absurd (List.infix_nil.mp h) hp
  | occurs s ih =>
      rw [Text.replaceAll_append hp, weight_append, weight_append]
      exact Nat.add_lt_add_of_lt_of_le (by decide) (weight_replaceAll_le s)
  | plain c s hc ih =>
      rw [Text.replaceAll_cons hp hc, weight_cons c, weight_cons c s]
      exact Nat.add_lt_add_left (ih ((List.infix_cons_iff.mp h).resolve_left hc)) _

end Weight

/-- A segment as it stands in a text. -/
def Segment.write : Segment → Text
  | .plain s => s
  | .tag t => t.write

section Segments

variable {s : Text}

/-- The segments of a text, written one after the other, are the text. -/
theorem flatMap_write_segments (s : Text) : (segments s).flatMap Segment.write = s := by
  have hcons (c : Char) (segments : List Segment) :
      (Segment.cons (.plain c) segments).flatMap Segment.write =
        c :: segments.flatMap Segment.write := by
    cases segments with
    | nil => rfl
    | cons segment segments => cases segment <;> rfl
  induction s using tag_induction with
  | nil => rfl
  | tag t rest ht ih =>
      rw [segments, cut_write ht, List.foldr_cons, Segment.cons, List.flatMap_cons]
      exact congrArg (t.write ++ ·) ih
  | plain c s hc ih =>
      rw [segments, Text.cut_cons_of_none hc, List.foldr_cons, hcons]
      exact congrArg (c :: ·) ih

theorem hasNoTags_cons {c : Char} :
    HasNoTags (c :: s) ↔ findTag (c :: s) = none ∧ HasNoTags s := by
  rw [HasNoTags, List.tails_cons, List.forall_mem_cons]
  rfl

/-- Where no segment is a tag, no tag stands. -/
theorem hasNoTags_of_segments (h : ∀ t, Segment.tag t ∉ segments s) : HasNoTags s := by
  induction s using tag_induction with
  | nil => decide
  | tag t rest ht ih =>
      refine absurd ?_ (h t)
      rw [segments, cut_write ht]
      exact List.mem_cons_self
  | plain c s hc ih =>
      refine hasNoTags_cons.mpr ⟨hc, ih fun t ht => h t ?_⟩
      rw [segments, Text.cut_cons_of_none hc, List.foldr_cons]
      change _ ∈ Segment.cons _ (segments s)
      cases hsegments : segments s with
      | nil => rw [hsegments] at ht; cases ht
      | cons segment rest =>
          rw [hsegments] at ht
          cases segment with
          | plain run => exact List.mem_cons_of_mem _ ((List.mem_cons.mp ht).resolve_left (by simp))
          | tag t => exact List.mem_cons_of_mem _ ht

theorem weight_drawn_le (screen : Screen) (s : Text) : weight (drawn screen s) ≤ weight s := by
  have hvisible := weight_visible_add (screen.pictures s)
  have hpictures := weight_pictures_le screen s
  rw [drawn]
  omega

/-- A tag loses its bracket or one of the solidi before it. -/
theorem weight_shown_tag_lt (screen : Screen) (t : Tag) :
    weight ((Segment.tag t).shown screen) < weight (Segment.tag t).write := by
  have htext := weight_drawn_le screen t.text
  have hbracket : 0 < weight t.text := by
    rw [Tag.text, weight_cons]
    exact Nat.add_pos_left (by decide) _
  rw [Segment.shown, Segment.write, Tag.write, weight_append, weight_append, weight_solidi,
    weight_solidi]
  split
  · omega
  · have hnil : weight [] = 0 := rfl
    omega

theorem weight_shown_le (screen : Screen) (segment : Segment) :
    weight (segment.shown screen) ≤ weight segment.write := by
  cases segment with
  | plain s => exact (weight_drawn_le screen _).trans (weight_replaceAll_le s)
  | tag t => exact (weight_shown_tag_lt screen t).le

/-- Segments weigh less as they are shown if a tag is among them. -/
theorem weight_flatMap_shown_lt (screen : Screen) {segments : List Segment} {t : Tag}
    (h : .tag t ∈ segments) :
    weight (segments.flatMap (Segment.shown screen)) <
      weight (segments.flatMap Segment.write) := by
  have hle (segments : List Segment) :
      weight (segments.flatMap (Segment.shown screen)) ≤
        weight (segments.flatMap Segment.write) := by
    induction segments with
    | nil => rfl
    | cons segment segments ih =>
        rw [List.flatMap_cons, List.flatMap_cons, weight_append, weight_append]
        exact Nat.add_le_add (weight_shown_le screen segment) ih
  induction segments with
  | nil => cases h
  | cons segment segments ih =>
      rw [List.flatMap_cons, List.flatMap_cons, weight_append, weight_append]
      rcases List.mem_cons.mp h with rfl | h
      · exact Nat.add_lt_add_of_lt_of_le (weight_shown_tag_lt screen t) (hle segments)
      · exact Nat.add_lt_add_of_le_of_lt (weight_shown_le screen segment) (ih h)

end Segments

section Verbatim

variable {screen : Screen} {s : Text}

theorem plain_of_isVerbatim (h : IsVerbatim s) (screen : Screen) :
    plain screen s = .ok (drawn screen s) := by
  rw [plain_of_hasNoTags h.untagged, Text.replaceAll_of_absent (by decide) h.unescaped]

theorem visible_of_kept (h : ∀ c ∈ s, isDropped c = false) : visible s = s :=
  List.filter_eq_self.mpr fun c hc => by simp [h c hc]

/-- Colons are shown. -/
theorem countP_colon_visible (s : Text) :
    (visible s).countP (· = ':') = s.countP (· = ':') := by
  rw [visible, List.countP_filter]
  refine List.countP_congr fun c _ => ?_
  by_cases hc : c = ':'
  · subst hc
    decide
  · simp [hc]

/-- A text that is shown with its whole weight and all its colons is shown as it is. -/
theorem isVerbatim_of_weight {shown : Text} (h : plain screen s = .ok shown)
    (hweight : weight s ≤ weight shown)
    (hcolons : s.countP (· = ':') ≤ shown.countP (· = ':')) :
    IsVerbatim s ∧ screen.pictures s = s := by
  have huntagged : HasNoTags s := by
    refine hasNoTags_of_segments fun t ht => ?_
    have hlt := weight_flatMap_shown_lt screen ht
    rw [flatMap_write_segments, ← shownText, ← plain_eq_ok h] at hlt
    omega
  rw [plain_of_hasNoTags huntagged] at h
  cases h
  have hunescaped : ¬ "\\[".toList <:+: s := by
    intro hwithin
    have hdrawn := weight_drawn_le screen (Text.replaceAll "\\[" "[" s)
    have hlt := weight_replaceAll_lt hwithin
    omega
  rw [Text.replaceAll_of_absent (by decide) hunescaped, drawn] at hweight hcolons
  rw [countP_colon_visible] at hcolons
  -- a picture would cost colons, and only then does the weight tell what is left out
  have hpictures : screen.pictures s = s :=
    (screen.pictured s).eq_or_countP_lt.resolve_right (by omega)
  rw [hpictures] at hweight
  refine ⟨⟨huntagged, hunescaped, fun c hc => ?_⟩, hpictures⟩
  have hkept := weight_visible_add s
  have hnone : s.countP isDropped = 0 := by omega
  simpa using List.countP_eq_zero.mp hnone c hc

end Verbatim

section Surrounded

variable {before behind s : Text}

/-- What stands behind a text without a closing bracket makes no tag of it. -/
theorem findTag_append_eq_none_iff (h : ']' ∉ behind) :
    findTag (s ++ behind) = none ↔ findTag s = none := by
  rw [findTag_eq_none_iff, findTag_eq_none_iff]
  constructor
  · rintro hnone t rest ht rfl
    exact hnone t (rest ++ behind) ht (List.append_assoc _ _ _)
  · intro hnone t rest ht hs
    obtain ⟨more, hmore⟩ : t.write <+: s := by
      rw [t.write_eq_concat]
      exact Text.concat_prefix_of_append h ⟨rest, by rw [← t.write_eq_concat, hs]⟩
    exact hnone t more ht hmore.symm

theorem isVerbatim_append_left (h : weight before = 0) :
    IsVerbatim (before ++ s) ↔ IsVerbatim s := by
  induction before with
  | nil => rfl
  | cons c before ih =>
      obtain ⟨hc, hbefore⟩ := List.forall_mem_cons.mp (weight_eq_zero_iff.mp h)
      have hmarks : c ≠ '[' ∧ c ≠ '\\' ∧ isDropped c = false := by
        simpa [isMarked, and_assoc] using hc
      obtain ⟨hbracket, hsolidus, hdropped⟩ := hmarks
      have hwithin (t : Text) : "\\[".toList <:+: c :: t ↔ "\\[".toList <:+: t := by
        rw [List.infix_cons_iff]
        refine or_iff_right fun hbegins => ?_
        exact hsolidus (List.cons_prefix_cons.mp hbegins).1.symm
      rw [← ih (weight_eq_zero_iff.mpr hbefore)]
      constructor
      · rintro ⟨huntagged, hunescaped, hkept⟩
        exact ⟨(hasNoTags_cons.mp huntagged).2, fun hin => hunescaped ((hwithin _).mpr hin),
          (List.forall_mem_cons.mp hkept).2⟩
      · rintro ⟨huntagged, hunescaped, hkept⟩
        exact ⟨hasNoTags_cons.mpr ⟨findTag_cons_of_ne hsolidus hbracket _, huntagged⟩,
          fun hin => hunescaped ((hwithin _).mp hin), List.forall_mem_cons.mpr ⟨hdropped, hkept⟩⟩

theorem isVerbatim_append_right (h : weight behind = 0) (hclose : ']' ∉ behind) :
    IsVerbatim (s ++ behind) ↔ IsVerbatim s := by
  have hnil : IsVerbatim [] := by decide
  have hbehind : IsVerbatim behind := by
    have happend := isVerbatim_append_left (s := []) h
    rw [List.append_nil] at happend
    exact happend.mpr hnil
  have hopen : '[' ∉ behind := fun hmem =>
    absurd (weight_eq_zero_iff.mp h _ hmem) (by decide)
  have huntagged : HasNoTags (s ++ behind) ↔ HasNoTags s := by
    induction s with
    | nil => exact iff_of_true hbehind.untagged hnil.untagged
    | cons c s ih =>
        rw [List.cons_append, hasNoTags_cons, hasNoTags_cons, ih, ← List.cons_append,
          findTag_append_eq_none_iff hclose]
  have hwithin : "\\[".toList <:+: s ++ behind ↔ "\\[".toList <:+: s := by
    constructor
    · rintro ⟨front, rest, hs⟩
      obtain ⟨more, hmore⟩ : (front ++ ['\\']) ++ ['['] <+: s :=
        Text.concat_prefix_of_append hopen ⟨rest, by simpa using hs⟩
      exact ⟨front, more, by simpa using hmore⟩
    · exact fun hin => hin.trans ⟨[], behind, rfl⟩
  constructor
  · intro hwhole
    exact ⟨huntagged.mp hwhole.untagged, fun hin => hwhole.unescaped (hwithin.mpr hin),
      fun c hc => hwhole.kept c (List.mem_append_left _ hc)⟩
  · intro hs
    refine ⟨huntagged.mpr hs.untagged, fun hin => hs.unescaped (hwithin.mp hin), fun c hc => ?_⟩
    rcases List.mem_append.mp hc with hc | hc
    · exact hs.kept c hc
    · exact hbehind.kept c hc

end Surrounded

end Markup
end NoteTemplates
