import Mathlib.Data.List.TakeWhile
import NoteTemplates.Proofs.Exchanges
import NoteTemplates.Proofs.Substituting

/-!
# Tags in a text

A tag is written as reverse solidi and a body in brackets. Whether one begins at a character is
seen from the brackets behind it: an opening bracket begins a tag if a character that can begin
one follows it, and the next bracket is a closing one. A text is cut into tags and the
characters between them.
-/

namespace NoteTemplates
namespace Markup

/-- What can stand between the brackets of a tag. -/
def IsBody (s : Text) : Prop :=
  ∃ c rest, s = c :: rest ∧ beginsTag c = true ∧ ∀ d ∈ rest, isInside d = true

instance : (s : Text) → Decidable (IsBody s)
  | [] => isFalse nofun
  | c :: rest =>
    decidable_of_iff (beginsTag c = true ∧ rest.all isInside = true) <| by
      rw [List.all_eq_true]
      constructor
      · rintro ⟨hc, hrest⟩
        exact ⟨c, rest, rfl, hc, hrest⟩
      · rintro ⟨d, more, heq, hd, hmore⟩
        cases heq
        exact ⟨hd, hmore⟩

/-- A tag with the reverse solidi before it, as it stands in a text. -/
def Tag.write (t : Tag) : Text :=
  List.replicate t.escapes '\\' ++ t.text

/-- The first bracket of a text. -/
def bracket? (s : Text) : Option Char :=
  s.find? fun c => !isInside c

section Finding

variable {s rest : Text} {t : Tag} {c : Char} {more : Nat}

theorem Tag.write_eq_concat (t : Tag) :
    t.write = (List.replicate t.escapes '\\' ++ '[' :: t.body) ++ [']'] := by
  simp [write, text]

theorem Tag.write_ne_nil (t : Tag) : t.write ≠ [] := by
  simp [write, text]

theorem isInside_of_beginsTag (h : beginsTag c = true) : isInside c = true := by
  have hopen : c ≠ '[' := by
    rintro rfl
    exact absurd h (by decide)
  have hclose : c ≠ ']' := by
    rintro rfl
    exact absurd h (by decide)
  simp [isInside, hopen, hclose]

theorem IsBody.isInside (h : IsBody s) : ∀ c ∈ s, isInside c = true := by
  obtain ⟨c, rest, rfl, hc, hrest⟩ := h
  exact List.forall_mem_cons.mpr ⟨isInside_of_beginsTag hc, hrest⟩

/-- The solidi before a bracket are counted, and the rest is looked at behind them. -/
theorem dropWhile_write (n : Nat) (hc : c ≠ '\\') (rest : Text) :
    (List.replicate n '\\' ++ c :: rest).dropWhile (· = '\\') = c :: rest ∧
      (List.replicate n '\\' ++ c :: rest).takeWhile (· = '\\') = List.replicate n '\\' := by
  have hall : ∀ d ∈ List.replicate n '\\', decide (d = '\\') = true := by
    intro d hd
    simp [List.eq_of_mem_replicate hd]
  rw [List.dropWhile_append_of_pos hall, List.takeWhile_append_of_pos hall]
  simp [hc]

theorem findTag_write (h : IsBody t.body) (rest : Text) :
    findTag (t.write ++ rest) = some (t, t.write.length - 1) := by
  obtain ⟨escapes, body⟩ := t
  obtain ⟨c, inner, hbody, hc, hinner⟩ := h
  obtain rfl : body = c :: inner := hbody
  have hwrite : Tag.write ⟨escapes, c :: inner⟩ ++ rest =
      List.replicate escapes '\\' ++ '[' :: (c :: (inner ++ ']' :: rest)) := by
    simp [Tag.write, Tag.text]
  obtain ⟨hdrop, htake⟩ := dropWhile_write (c := '[') escapes (by decide)
    (c :: (inner ++ ']' :: rest))
  have hclose : (inner ++ ']' :: rest).dropWhile isInside = ']' :: rest := by
    rw [List.dropWhile_append_of_pos hinner]
    rfl
  have hinside : (inner ++ ']' :: rest).takeWhile isInside = inner := by
    rw [List.takeWhile_append_of_pos hinner]
    exact List.append_nil inner
  have hlength : (Tag.write ⟨escapes, c :: inner⟩).length =
      Tag.length ⟨escapes, c :: inner⟩ := by
    simp [Tag.write, Tag.length]
  simp only [hwrite, findTag, hdrop, htake, hc, hclose, hinside, List.length_replicate, hlength,
    if_true]

theorem eq_write_of_findTag (h : findTag s = some (t, more)) :
    ∃ rest, s = t.write ++ rest ∧ IsBody t.body ∧ more = t.write.length - 1 := by
  have hparts : s.takeWhile (· = '\\') ++ s.dropWhile (· = '\\') = s :=
    List.takeWhile_append_dropWhile
  have hsolidi : s.takeWhile (· = '\\') =
      List.replicate (s.takeWhile (· = '\\')).length '\\' :=
    List.eq_replicate_of_mem fun c hc => by simpa using List.mem_takeWhile_imp hc
  rw [findTag] at h
  split at h
  · rename_i c rest hdrop
    split at h
    · rename_i hc
      split at h
      · rename_i behind hclose
        obtain ⟨rfl, rfl⟩ : _ = t ∧ _ = more := by simpa using h
        have hrest : rest.takeWhile isInside ++ ']' :: behind = rest := by
          rw [← hclose]
          exact List.takeWhile_append_dropWhile
        refine ⟨behind, ?_, ⟨c, _, rfl, hc, fun d hd => List.mem_takeWhile_imp hd⟩, ?_⟩
        · rw [Tag.write, ← hsolidi]
          conv_lhs => rw [← hparts, hdrop, ← hrest]
          simp [Tag.text]
        · simp [Tag.write, Tag.length]
      · cases h
    · cases h
  · cases h

theorem findTag_eq_none_iff :
    findTag s = none ↔ ∀ (t : Tag) (rest : Text), IsBody t.body → s ≠ t.write ++ rest := by
  constructor
  · rintro hnone t rest ht rfl
    rw [findTag_write ht] at hnone
    cases hnone
  · intro h
    cases hfind : findTag s with
    | none => rfl
    | some found =>
        obtain ⟨t, more⟩ := found
        obtain ⟨rest, hs, ht, -⟩ := eq_write_of_findTag hfind
        exact absurd hs (h t rest ht)

/-- No tag begins at a character that is neither a reverse solidus nor a bracket. -/
theorem findTag_cons_of_ne (hsolidus : c ≠ '\\') (hbracket : c ≠ '[') (s : Text) :
    findTag (c :: s) = none := by
  refine findTag_eq_none_iff.mpr fun t rest _ hs => ?_
  rw [Tag.write, Tag.text] at hs
  cases hescapes : t.escapes with
  | zero =>
      rw [hescapes] at hs
      exact hbracket (List.cons.inj hs).1
  | succ n =>
      rw [hescapes] at hs
      exact hsolidus (List.cons.inj hs).1

/-- A tag begins at a reverse solidus if one begins behind it. -/
theorem findTag_solidus : findTag ('\\' :: s) = none ↔ findTag s = none := by
  rw [findTag_eq_none_iff, findTag_eq_none_iff]
  constructor
  · rintro h t rest ht rfl
    exact h { t with escapes := t.escapes + 1 } rest ht rfl
  · intro h t rest ht hs
    rw [Tag.write, Tag.text] at hs
    cases hescapes : t.escapes with
    | zero =>
        rw [hescapes] at hs
        exact absurd (List.cons.inj hs).1 (by decide)
    | succ n =>
        rw [hescapes] at hs
        exact h { t with escapes := n } rest ht (List.cons.inj hs).2

/-- A tag begins at an opening bracket if a closing one is the next, and a body can begin. -/
theorem findTag_bracket : findTag ('[' :: s) = none ↔
    ¬ ((∃ c ∈ s.head?, beginsTag c = true) ∧ bracket? s = some ']') := by
  have hhead := (List.find?_not_eq_head?_dropWhile isInside s).symm
  cases s with
  | nil => simp [findTag]
  | cons c rest =>
      cases hc : beginsTag c with
      | false => simp [findTag, hc]
      | true =>
          rw [List.dropWhile_cons_of_pos (isInside_of_beginsTag hc)] at hhead
          rw [bracket?, ← hhead]
          cases hbehind : rest.dropWhile isInside with
          | nil => simp [findTag, hc, hbehind]
          | cons d behind =>
              by_cases hd : d = ']'
              · subst hd
                simp [findTag, hc, hbehind]
              · simp [findTag, hc, hbehind, hd]

end Finding

section Cutting

variable {s rest : Text} {t : Tag} {c : Char}

theorem cut_write (h : IsBody t.body) (rest : Text) :
    Text.cut findTag 0 (t.write ++ rest) = .found t :: Text.cut findTag 0 rest :=
  Text.cut_append_of_some t.write_ne_nil (findTag_write h rest)

/-- Induction along the pieces of a text. -/
theorem tag_induction {motive : Text → Prop} (nil : motive [])
    (tag : ∀ (t : Tag) (rest : Text), IsBody t.body → motive rest → motive (t.write ++ rest))
    (plain : ∀ c s, findTag (c :: s) = none → motive s → motive (c :: s)) (s : Text) :
    motive s := by
  have hfind (s : Text) : findTag s = none ∨
      ∃ m rest, s = m ++ rest ∧ ∃ t : Tag, IsBody t.body ∧ t.write = m := by
    cases hfound : findTag s with
    | none => exact Or.inl rfl
    | some found =>
        obtain ⟨t, more⟩ := found
        obtain ⟨rest, hrest, ht, -⟩ := eq_write_of_findTag hfound
        exact Or.inr ⟨t.write, rest, hrest, t, ht, rfl⟩
  refine Text.cut_induction hfind ?_ nil ?_ plain s
  · rintro _ ⟨t, -, rfl⟩
    exact t.write_ne_nil
  · rintro _ rest ⟨t, ht, rfl⟩
    exact tag t rest ht

/-- A stretch without reverse solidi and brackets is cut into its characters. -/
theorem cut_append_of_plain (h : ∀ c ∈ s, c ≠ '\\' ∧ c ≠ '[') (rest : Text) :
    Text.cut findTag 0 (s ++ rest) = s.map .plain ++ Text.cut findTag 0 rest := by
  induction s with
  | nil => rfl
  | cons c s ih =>
      obtain ⟨hsolidus, hbracket⟩ := h c (by simp)
      rw [List.cons_append, Text.cut_cons_of_none (findTag_cons_of_ne hsolidus hbracket _),
        ih fun d hd => h d (by simp [hd])]
      rfl

end Cutting

end Markup
end NoteTemplates
