import Mathlib.Data.Char
import Mathlib.Data.List.Lex
import Mathlib.Data.Prod.Lex
import NoteTemplates.Catalog.Basic
import NoteTemplates.Proofs.Texts

/-!
# Catalogs in order

The rank of a template is its priority, its category, its name and the name of its file, the
first difference deciding. A catalog is sorted by the first three only. Sorting keeps the
order of templates that agree in these, and the files of a directory come in the order of
their names, so a catalog is strictly in the order of the ranks.

* `byRank_sort`: templates in the order of their files are sorted by rank.
* `ByRank.eq_of_perm`: there is one way to put templates in the order of ranks.
* `sort_append_cons`: one more template is sorted into its place among the others.
-/

namespace NoteTemplates

/-- Texts are compared by code point, the first difference deciding. -/
theorem Text.le_iff {s t : Text} : le s t = true ↔ s ≤ t := by
  induction s generalizing t with
  | nil =>
      have hnil : ([] : Text) ≤ t := not_lt.mp (List.not_lt_nil t)
      simp [le, hnil]
  | cons c s ih =>
      cases t with
      | nil => simp [le]
      | cons d t =>
          have hchar : c.toNat < d.toNat ↔ c < d := by
            rw [Char.lt_def, UInt32.lt_iff_toNat_lt]
            rfl
          rw [le_cons, ih, hchar, le_iff_lt_or_eq, le_iff_lt_or_eq, List.cons_lt_cons_iff,
            List.cons.injEq]
          tauto

namespace Template

variable {t u : Template}

/-- What decides on the place of a template in a catalog, the first difference deciding. -/
def rank (t : Template) : Int ×ₗ Text ×ₗ Text ×ₗ Text :=
  toLex (t.priority, toLex (t.category, toLex (t.name, t.filename)))

theorem rank_lt_rank :
    t.rank < u.rank ↔
      t.priority < u.priority ∨ t.priority = u.priority ∧
        (t.category < u.category ∨ t.category = u.category ∧
          (t.name < u.name ∨ t.name = u.name ∧ t.filename < u.filename)) := by
  simp only [rank, Prod.Lex.toLex_lt_toLex]

/-- A catalog is sorted by rank without the names of the files. -/
theorem precedes_iff :
    t.precedes u = true ↔
      toLex (t.priority, toLex (t.category, t.name)) ≤
        toLex (u.priority, toLex (u.category, u.name)) := by
  rw [Prod.Lex.toLex_le_toLex, Prod.Lex.toLex_le_toLex, precedes]
  by_cases hcategory : t.category = u.category
  · simp [hcategory, Text.le_iff]
  · simp [hcategory, Text.le_iff, le_iff_lt_or_eq]

theorem precedes_trans (t u v : Template) (htu : t.precedes u = true)
    (huv : u.precedes v = true) : t.precedes v = true := by
  rw [precedes_iff] at htu huv ⊢
  exact htu.trans huv

theorem precedes_total (t u : Template) : (t.precedes u || u.precedes t) = true := by
  rw [Bool.or_eq_true, precedes_iff, precedes_iff]
  exact le_total _ _

/-- Of templates that agree but for their files, the file decides. -/
theorem rank_lt_of_precedes (h : t.precedes u = true) (hfile : t.filename < u.filename) :
    t.rank < u.rank := by
  rw [precedes_iff, Prod.Lex.toLex_le_toLex, Prod.Lex.toLex_le_toLex] at h
  rw [rank_lt_rank]
  refine h.imp_right fun ⟨hpriority, hrest⟩ => ⟨hpriority, hrest.imp_right ?_⟩
  rintro ⟨hcategory, hname⟩
  exact ⟨hcategory, (le_iff_lt_or_eq.mp hname).imp_right fun heq => ⟨heq, hfile⟩⟩

/-- A template that another one does not precede is before it, whatever their files are. -/
theorem rank_lt_of_not_precedes (h : ¬ u.precedes t = true) : t.rank < u.rank := by
  rw [precedes_iff, not_le, Prod.Lex.toLex_lt_toLex, Prod.Lex.toLex_lt_toLex] at h
  rw [rank_lt_rank]
  exact h.imp_right fun ⟨hpriority, hrest⟩ =>
    ⟨hpriority, hrest.imp_right fun ⟨hcategory, hname⟩ => ⟨hcategory, Or.inl hname⟩⟩

end Template

namespace Catalog

variable {templates others before after : List Template} {t : Template}

/-- Templates in the order of the names of their files, no two of one file. -/
def ByFile (templates : List Template) : Prop :=
  templates.Pairwise fun t u => t.filename < u.filename

/-- Templates in the order of their ranks, no two of one rank. -/
def ByRank (templates : List Template) : Prop :=
  templates.Pairwise fun t u => t.rank < u.rank

/-- Templates in the order of their files are sorted by rank. -/
theorem byRank_sort (h : ByFile templates) : ByRank (sort templates) := by
  induction templates with
  | nil => simp [sort, ByRank]
  | cons t templates ih =>
      -- the first file is sorted in front of the templates that its template precedes
      obtain ⟨before, after, hmore, hsort, hbefore⟩ :=
        List.mergeSort_cons Template.precedes_trans Template.precedes_total t templates
      have hsorted := List.pairwise_mergeSort Template.precedes_trans Template.precedes_total
        (t :: templates)
      obtain ⟨hfirst, hrest⟩ := List.pairwise_cons.mp h
      have ih' := ih hrest
      rw [ByRank, sort, hsort, List.pairwise_append] at ih'
      obtain ⟨hranksBefore, hranksAfter, hranks⟩ := ih'
      rw [hmore, List.pairwise_append, List.pairwise_cons] at hsorted
      have hlow (u : Template) (hu : u ∈ before) : u.rank < t.rank :=
        Template.rank_lt_of_not_precedes (by simpa using hbefore u hu)
      have hhigh (u : Template) (hu : u ∈ after) : t.rank < u.rank := by
        have hmem : u ∈ templates.mergeSort Template.precedes := by simp [hsort, hu]
        exact Template.rank_lt_of_precedes (hsorted.2.1.1 u hu)
          (hfirst u (List.mem_mergeSort.mp hmem))
      rw [ByRank, sort, hmore, List.pairwise_append, List.pairwise_cons]
      refine ⟨hranksBefore, ⟨hhigh, hranksAfter⟩, fun u hu v hv => ?_⟩
      rcases List.mem_cons.mp hv with rfl | hv
      · exact hlow u hu
      · exact hranks u hu v hv

/-- There is one way to put templates in the order of their ranks. -/
theorem ByRank.eq_of_perm (h : ByRank templates) (h' : ByRank others)
    (hperm : templates.Perm others) : templates = others :=
  hperm.eq_of_pairwise (fun _ _ _ _ hlt hgt => absurd hgt hlt.asymm) h h'

/-- A template stands at one place in the order of the ranks. -/
theorem ByRank.append_cons_inj {earlier later : List Template}
    (h : ByRank (before ++ t :: after)) (heq : before ++ t :: after = earlier ++ t :: later) :
    before = earlier ∧ after = later := by
  obtain ⟨-, hafter, hbefore⟩ := List.pairwise_append.mp h
  have hbefore' : t ∉ before := fun hmem => lt_irrefl _ (hbefore t hmem t (by simp))
  have hafter' : t ∉ after := fun hmem => lt_irrefl _ ((List.pairwise_cons.mp hafter).1 t hmem)
  obtain ⟨hsame, -, hsame'⟩ := (List.append_cons_inj_of_notMem hbefore' hafter').mp heq
  exact ⟨hsame, hsame'⟩

/-- Sorted templates without one of them are the others sorted. -/
theorem sort_append_cons (h : ByFile (before ++ t :: after)) :
    ∃ earlier later, sort (before ++ t :: after) = earlier ++ t :: later ∧
      sort (before ++ after) = earlier ++ later := by
  have hperm := List.mergeSort_perm (before ++ t :: after) Template.precedes
  obtain ⟨earlier, later, hsort⟩ := List.append_of_mem (hperm.mem_iff.mpr (by simp : t ∈ _))
  refine ⟨earlier, later, hsort, ?_⟩
  have hfewer : List.Sublist (before ++ after) (before ++ t :: after) :=
    (List.sublist_cons_self t after).append_left before
  have hranks : ByRank (earlier ++ t :: later) := hsort ▸ byRank_sort h
  have hranks' : ByRank (earlier ++ later) :=
    hranks.sublist ((List.sublist_cons_self t later).append_left earlier)
  refine ByRank.eq_of_perm (byRank_sort (h.sublist hfewer)) hranks' ?_
  calc (before ++ after).mergeSort Template.precedes
    _ |>.Perm (before ++ after) := List.mergeSort_perm _ _
    _ |>.Perm (earlier ++ later) := by
      rw [hsort] at hperm
      exact (List.perm_middle.symm.trans (hperm.symm.trans List.perm_middle)).cons_inv

end Catalog
end NoteTemplates
