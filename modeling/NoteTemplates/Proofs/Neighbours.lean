import NoteTemplates.Proofs.Isolation
import NoteTemplates.Proofs.Lookups

/-!
# One more template in a catalog

Two file systems that differ by the file of one template in the directory of the templates,
which holds no links. What is loaded from both differs by that template, which stands in its
place in the one catalog; the other templates and the warnings are the same, in the same
order. Read in one direction this is about a file that is put in, read in the other about a
file that is taken away.
-/

namespace NoteTemplates

open Effect

namespace Catalog

variable {around : Surroundings} {s t : Store} {place : Place} {directory extra : Text}

theorem sift_append (items others : List (Except Failure Template)) :
    sift (items ++ others) =
      ((sift items).1 ++ (sift others).1, (sift items).2 ++ (sift others).2) := by
  induction items with
  | nil => rfl
  | cons item items ih =>
      cases item with
      | ok u => simp [sift, ih]
      | error f => simp [sift, ih]

/-- The results without and with one more template make the same catalog but for that one. -/
theorem loaded_insert {before after : List (Except Failure Template)} {u : Template}
    (h : ByFile (sift (before ++ .ok u :: after)).1) :
    ∃ earlier later warnings,
      loaded (sift (before ++ after)) = (earlier ++ later, warnings) ∧
      loaded (sift (before ++ .ok u :: after)) = (earlier ++ u :: later, warnings) ∧
      ByRank (earlier ++ u :: later) := by
  rw [sift_append, sift] at h
  obtain ⟨earlier, later, hsort, hsort'⟩ := sort_append_cons h
  refine ⟨earlier, later, (sift (before ++ after)).2.map Failure.message, ?_, ?_,
    hsort ▸ byRank_sort h⟩
  · rw [loaded, sift_append, hsort']
  · rw [sift_append, sift_append, sift, loaded, hsort]

/-- Entries among which there are no links can be examined. -/
theorem canExamineAll_of_no_links {base : Place} {entries : List (Text × Entry)}
    (h : ∀ name target, (name, Entry.link target) ∉ entries) :
    CanExamineAll s base directory entries := by
  intro name e hmem _ hlink
  cases e with
  | file mode bytes => cases hlink
  | directory => cases hlink
  | link target => exact absurd hmem (h name target)

/--
What one more template in the directory of the templates does to what is loaded: it stands in
its place in the catalog, and the rest is the same in the same order.
-/
theorem load_of_extra {settings : Settings} {path : Path} {w v : World} {u : Template}
    (hw : w.store.IsSound) (hv : v.store.IsSound)
    (hextra : w.store.HasExtra v.store place extra)
    (hpath : settings.templatesPath around.environment around.directory = .ok path)
    (hfound : w.store.find around.base true path.toText = .ok (.found place .directory))
    (hlist : ∃ entries, ((Disk.list path.toText).perform around w).1 = .ok entries)
    (hlinks : ∀ name target, (name, Entry.link target) ∉ v.store.children place)
    (hcandidate : IsCandidate v.store around.base path.toText (v.store.children place) extra)
    (hitem : item around v.store path.toText extra = .ok u) :
    ∃ before after warnings,
      ((load settings).perform around w).1 = .ok (before ++ after, warnings) ∧
      ((load settings).perform around v).1 = .ok (before ++ u :: after, warnings) ∧
      ByRank (before ++ u :: after) := by
  obtain ⟨_, hentries⟩ := hlist
  obtain ⟨hnul, hlisting⟩ := Disk.list_ok hentries
  have hfound' := hextra.find_directory hw hfound
  have hlist : (Disk.list path.toText).perform around w = (.ok (w.store.children place), w) := by
    rw [hlisting, Disk.listing, hfound]
  have hlist' : (Disk.list path.toText).perform around v = (.ok (v.store.children place), v) := by
    rw [hlisting, Disk.listing, hfound']
  have hexamine' : CanExamineAll v.store around.base path.toText (v.store.children place) :=
    canExamineAll_of_no_links hlinks
  have hexamine := ((canExamineAll_iff hextra hw hv hfound).mp hexamine').1
  rcases ofDirectory_cases hw hnul hlist with
    ⟨-, names, result, haccounts, hrun⟩ | ⟨name, errno, hrefused, -⟩
  case inr => exact absurd hexamine hrefused.not_canExamineAll
  rcases ofDirectory_cases hv hnul hlist' with
    ⟨-, names', result', haccounts', hrun'⟩ | ⟨name, errno, hrefused, -⟩
  case inr => exact absurd hexamine' hrefused.not_canExamineAll
  obtain ⟨before, after, hresult, ⟨-, hresult'⟩ | ⟨hno, -⟩⟩ :=
    haccounts.of_extra hextra hw hv hfound haccounts'
  case inr => exact absurd hcandidate hno
  rw [hitem] at hresult'
  obtain ⟨earlier, later, warnings, hloaded, hloaded', hranks⟩ :=
    loaded_insert (hresult' ▸ haccounts'.byFile)
  obtain ⟨events, hload⟩ := perform_load hpath hrun
  obtain ⟨events', hload'⟩ := perform_load hpath hrun'
  refine ⟨earlier, later, warnings, ?_, ?_, hranks⟩
  · rw [hload, hresult, ← hloaded]
    rfl
  · rw [hload', hresult', ← hloaded']
    rfl

end Catalog
end NoteTemplates
