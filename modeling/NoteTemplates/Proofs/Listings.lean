import NoteTemplates.Proofs.Accounting
import NoteTemplates.Proofs.Ranks

/-!
# Listings in any order

The entries of a directory are listed in whatever order the file system has them. Two file
systems that hold the same entries in different orders show every order of a listing, and
reading the directory gives the same in both, or ends with no result in both.

Results: what a result says about the order of its files (`Accounts.byFile`,
`Accounts.leavesOut`), that a result does not depend on the order of the entries
(`ofDirectory_of_perm`), what loading makes of a result (`perform_load`), and both put
together (`load_of_perm`).
-/

namespace NoteTemplates

open Effect

namespace Store

variable {s t : Store} {place : Place}

/-- What can be read in a file system does not depend on the order of its entries. -/
theorem get?_of_perm (hsingle : (s.entries.map (·.1)).Nodup) (hperm : s.entries.Perm t.entries)
    (p : Place) : t.get? p = s.get? p :=
  lookup_of_perm hsingle hperm p

/-- The entries of a file system in another order are a file system. -/
theorem IsSound.of_perm (h : s.IsSound) (hperm : s.entries.Perm t.entries) : t.IsSound := by
  refine ⟨⟨fun entry hmem => ?_, fun entry hmem => ?_⟩, (hperm.map _).nodup_iff.mp h.single,
    fun entry hmem => ?_⟩
  · exact h.tree.isName entry (hperm.mem_iff.mpr hmem)
  · exact (h.tree.inDirectory entry (hperm.mem_iff.mpr hmem)).imp_right
      (get?_of_perm h.single hperm _).trans
  · exact h.noNul entry (hperm.mem_iff.mpr hmem)

/-- A path leads to the same in stores in which the same can be read. -/
theorem find_congr (h : ∀ p, s.get? p = t.get? p) (base : Place) (path : Text) :
    s.find base true path = t.find base true path := by
  rw [find, find, Walk.along_congr _ _ _ fun q _ => h q]

/-- The entries of a directory, at their places. -/
theorem map_children (s : Store) (place : Place) :
    (s.children place).map (fun (name, e) => (place ++ [name], e)) =
      s.entries.filter fun (q, _) => q ≠ [] ∧ q.dropLast = place := by
  obtain ⟨entries⟩ := s
  induction entries with
  | nil => rfl
  | cons entry entries ih =>
      obtain ⟨q, e⟩ := entry
      rw [children, List.filterMap_cons, ← children, List.filter_cons, ← ih]
      rcases List.eq_nil_or_concat q with rfl | ⟨r, name, rfl⟩
      · simp
      · simp only [List.concat_eq_append, List.getLast?_concat, List.dropLast_concat]
        by_cases hr : r = place
        · subst hr
          simp
        · simp [hr]

/-- Every order of a listing is one in which a file system may have the entries. -/
theorem exists_children_eq {listing : List (Text × Entry)}
    (h : listing.Perm (s.children place)) :
    ∃ t : Store, s.entries.Perm t.entries ∧ t.children place = listing := by
  let isChild : Place × Entry → Bool := fun (q, _) => q ≠ [] ∧ q.dropLast = place
  let others := s.entries.filter fun entry => !isChild entry
  refine ⟨⟨listing.map (fun (name, e) => (place ++ [name], e)) ++ others⟩, ?_, ?_⟩
  · calc s.entries
      _ |>.Perm (s.entries.filter isChild ++ others) :=
        (List.filter_append_perm isChild s.entries).symm
      _ |>.Perm (listing.map (fun (name, e) => (place ++ [name], e)) ++ others) := by
        rw [← map_children]
        exact (h.symm.map _).append_right others
  · have hlisting :
        ({ entries := listing.map fun (name, e) => (place ++ [name], e) } : Store).children
          place = listing := by
      simp [children, List.filterMap_map]
    have hothers : ({ entries := others } : Store).children place = [] := by
      refine List.eq_nil_iff_forall_not_mem.mpr fun entry hmem => ?_
      obtain ⟨name, e⟩ := entry
      simpa [isChild] using (List.mem_filter.mp (mem_children.mp hmem)).2
    rw [children, List.filterMap_append, ← children, ← children, hlisting, hothers,
      List.append_nil]

end Store

namespace Catalog

variable {around : Surroundings} {s t : Store} {w v : World} {directory : Text}
  {entries entries' : List (Text × Entry)} {names : List Text} {place : Place}
  {result : List Template × List Failure}

section Sifting

variable {read : Text → Except Failure Template}

/-- The files of the templates among items are in the order of the items. -/
theorem sublist_filenames (h : ∀ name ∈ names, ∀ t, read name = .ok t → t.filename = name) :
    List.Sublist ((sift (names.map read)).1.map (·.filename)) names := by
  induction names with
  | nil => exact List.Sublist.slnil
  | cons name names ih =>
      have ih' := ih fun other hother => h other (List.mem_cons_of_mem _ hother)
      rw [List.map_cons]
      cases hread : read name with
      | error f => exact ih'.cons name
      | ok t =>
          rw [sift, List.map_cons, h name List.mem_cons_self t hread]
          exact ih'.cons_cons name

/-- The failures among items are those of some of the files, in the order of the items. -/
theorem exists_sublist_failures (read : Text → Except Failure Template) (names : List Text) :
    ∃ skipped, List.Sublist skipped names ∧
      List.Forall₂ (fun name f => read name = .error f) skipped (sift (names.map read)).2 := by
  induction names with
  | nil => exact ⟨[], List.Sublist.slnil, List.Forall₂.nil⟩
  | cons name names ih =>
      obtain ⟨skipped, hsub, hfails⟩ := ih
      rw [List.map_cons]
      cases hread : read name with
      | ok t => exact ⟨skipped, hsub.cons name, hfails⟩
      | error f => exact ⟨name :: skipped, hsub.cons_cons name, hfails.cons hread⟩

end Sifting

/-- The files of a directory whose failures these are, in the order of their names. -/
structure LeavesOut (around : Surroundings) (s : Store) (directory : Text) (names : List Text)
    (failures : List Failure) : Prop where
  ordered : names.Pairwise (· < ·)
  listed : ∀ name ∈ names, ∃ place e,
    s.find around.base true directory = .ok (.found place .directory) ∧
    s.get? (place ++ [name]) = some e
  fails : List.Forall₂ (fun name f => item around s directory name = .error f) names failures

section Accounts

theorem Accounts.pairwise_lt (h : Accounts around s directory entries names result) :
    names.Pairwise (· < ·) :=
  h.ordered.imp fun ⟨hle, hne⟩ => lt_of_le_of_ne (Text.le_iff.mp hle) hne

/-- The templates of a directory are in the order of their files. -/
theorem Accounts.byFile (h : Accounts around s directory entries names result) :
    ByFile result.1 := by
  have hnamed : ∀ name ∈ names, ∀ t, item around s directory name = .ok t →
      t.filename = name := by
    intro name hname t ht
    have hgives := h.gives name hname
    rw [ht] at hgives
    cases hgives with
    | template _ _ _ named => exact named
  rw [h.result_eq]
  exact List.pairwise_map.mp (h.pairwise_lt.sublist (sublist_filenames hnamed))

/-- The failures of a directory are in the order of its files. -/
theorem Accounts.leavesOut (hs : s.IsSound)
    (hfound : s.find around.base true directory = .ok (.found place .directory))
    (h : Accounts around s directory (s.children place) names result) :
    ∃ skipped, LeavesOut around s directory skipped result.2 := by
  obtain ⟨skipped, hsub, hfails⟩ := exists_sublist_failures (item around s directory) names
  refine ⟨skipped, h.pairwise_lt.sublist hsub, fun name hname => ?_, h.result_eq ▸ hfails⟩
  obtain ⟨-, e, hmem, -⟩ := (h.candidates name).mp (hsub.subset hname)
  exact ⟨place, e, hfound, hs.mem_children.mp hmem⟩

/-- Whatever the order of the entries is, they give the same result. -/
theorem Accounts.result_unique {names' : List Text} {result' : List Template × List Failure}
    (hfind : ∀ path, t.find around.base true path = s.find around.base true path)
    (hmem : ∀ entry, entry ∈ entries' ↔ entry ∈ entries)
    (h : Accounts around s directory entries names result)
    (h' : Accounts around t directory entries' names' result') : result' = result := by
  have hsame : names' = names := by
    have hperm : names'.Perm names :=
      (List.perm_ext_iff_of_nodup (h'.ordered.imp And.right) (h.ordered.imp And.right)).mpr
        fun name => by
          rw [h'.candidates, h.candidates]
          simp only [IsCandidate, Disk.IsRegular, hfind, hmem]
    exact Text.eq_of_perm_of_pairwise_le hperm (h'.ordered.imp And.left)
      (h.ordered.imp And.left)
  rw [h'.result_eq, h.result_eq, hsame]
  congr 2
  funext name
  exact item_congr (hfind _)

end Accounts

section Reading

/-- What a directory that cannot be listed gives. -/
def unlisted : Failure → Except Failure (List Template × List Failure)
  | .system e =>
    .ok ([], if e.errno.number = Errno.noEntry.number then [] else [.system e])
  | f => .error f

theorem ofDirectory_of_list_error {f : Failure}
    (h : (Disk.list directory).perform around w = (.error f, w)) :
    (ofDirectory directory).perform around w = (unlisted f, w) := by
  simp only [ofDirectory, perform_bind, perform_attempt, h]
  cases f with
  | system e =>
      by_cases he : e.errno.number = Errno.noEntry.number
      · simp [he, unlisted]
      · simp [he, unlisted]
  | _ => rfl

/-- A directory is listed in all stores in which its path leads to the same, or in none. -/
theorem list_both (around : Surroundings) (directory : Text)
    (hfind : v.store.find around.base true directory = w.store.find around.base true directory) :
    (∃ f, (Disk.list directory).perform around w = (.error f, w) ∧
        (Disk.list directory).perform around v = (.error f, v)) ∨
      ∃ place, '\x00' ∉ directory ∧
        w.store.find around.base true directory = .ok (.found place .directory) ∧
        (Disk.list directory).perform around w = (.ok (w.store.children place), w) ∧
        (Disk.list directory).perform around v = (.ok (v.store.children place), v) := by
  rcases Disk.list_cases around directory with ⟨f, hf⟩ | hlist
  · exact Or.inl ⟨f, hf w, hf v⟩
  · rw [hlist w, hlist v, Disk.listing, Disk.listing, hfind]
    by_cases hfound : ∃ place, w.store.find around.base true directory =
      .ok (.found place .directory)
    · obtain ⟨place, hfound⟩ := hfound
      have hentries : ((Disk.list directory).perform around w).1 =
          .ok (w.store.children place) := by
        rw [hlist w, Disk.listing, hfound]
      rw [hfound]
      exact Or.inr ⟨place, (Disk.list_ok hentries).1, rfl, rfl, rfl⟩
    · split
      case h_1 place hplace => exact absurd ⟨place, hplace⟩ hfound
      all_goals exact Or.inl ⟨_, rfl, rfl⟩

/--
Reading a directory changes nothing. It fails, or gives no template because the directory
cannot be listed, or gives a result that accounts for the entries.
-/
theorem ofDirectory_ends (hsound : w.store.IsSound) (directory : Text) :
    (∃ f, (ofDirectory directory).perform around w = (.error f, w)) ∨
      (∃ failures, (ofDirectory directory).perform around w = (.ok ([], failures), w)) ∨
        ∃ place names result,
          w.store.find around.base true directory = .ok (.found place .directory) ∧
          (Disk.list directory).perform around w = (.ok (w.store.children place), w) ∧
          CanExamineAll w.store around.base directory (w.store.children place) ∧
          Accounts around w.store directory (w.store.children place) names result ∧
          (ofDirectory directory).perform around w = (.ok result, w) := by
  rcases list_both (v := w) around directory rfl with
    ⟨f, hlist, -⟩ | ⟨place, hnul, hfound, hlist, -⟩
  · rw [ofDirectory_of_list_error hlist]
    cases f with
    | system e => exact Or.inr (Or.inl ⟨_, rfl⟩)
    | _ => exact Or.inl ⟨_, rfl⟩
  · rcases ofDirectory_cases hsound hnul hlist with
      ⟨hexamine, names, result, haccounts, hrun⟩ | ⟨name, errno, -, hrun⟩
    · exact Or.inr (Or.inr ⟨place, names, result, hfound, hlist, hexamine, haccounts, hrun⟩)
    · exact Or.inl ⟨_, hrun⟩

/-- The failures are those of files in the order of their names, or of the directory itself. -/
def InFileOrder (around : Surroundings) (w : World) (directory : Text)
    (result : List Template × List Failure) : Prop :=
  (∃ skipped, LeavesOut around w.store directory skipped result.2) ∨
    ∃ e, ((Disk.list directory).perform around w).1 = .error (.system e) ∧
      result = ([], [.system e])

/--
Reading a directory gives the same result whatever the order of the entries is, or gives none
whatever it is.
-/
theorem ofDirectory_of_perm (hsound : w.store.IsSound)
    (hperm : w.store.entries.Perm v.store.entries) (directory : Text) :
    (∃ result, (ofDirectory directory).perform around w = (.ok result, w) ∧
        (ofDirectory directory).perform around v = (.ok result, v) ∧
        ByFile result.1 ∧ InFileOrder around w directory result) ∨
      ∃ f g, (ofDirectory directory).perform around w = (.error f, w) ∧
        (ofDirectory directory).perform around v = (.error g, v) := by
  have hfind (path : Text) : v.store.find around.base true path =
      w.store.find around.base true path :=
    Store.find_congr (Store.get?_of_perm hsound.single hperm) around.base path
  rcases list_both around directory (hfind directory) with
    ⟨f, hlist, hlist'⟩ | ⟨place, hnul, hfound, hlist, hlist'⟩
  · rw [ofDirectory_of_list_error hlist, ofDirectory_of_list_error hlist']
    cases f with
    | system e =>
        refine Or.inl ⟨_, rfl, rfl, List.Pairwise.nil, ?_⟩
        split
        · exact Or.inl ⟨[], List.Pairwise.nil, nofun, List.Forall₂.nil⟩
        · exact Or.inr ⟨e, by rw [hlist], rfl⟩
    | _ => exact Or.inr ⟨_, _, rfl, rfl⟩
  · have hmem (entry : Text × Entry) : entry ∈ v.store.children place ↔
        entry ∈ w.store.children place :=
      (hperm.filterMap _).mem_iff.symm
    have hall : CanExamineAll v.store around.base directory (v.store.children place) ↔
        CanExamineAll w.store around.base directory (w.store.children place) := by
      simp only [CanExamineAll, Disk.CanExamine, hfind, hmem]
    rcases ofDirectory_cases hsound hnul hlist with
      ⟨hexamine, names, result, haccounts, hrun⟩ | ⟨name, errno, hrefused, hrun⟩ <;>
    rcases ofDirectory_cases (hsound.of_perm hperm) hnul hlist' with
      ⟨hexamine', names', result', haccounts', hrun'⟩ | ⟨name', errno', hrefused', hrun'⟩
    · rw [haccounts.result_unique hfind hmem haccounts'] at hrun'
      exact Or.inl ⟨result, hrun, hrun', haccounts.byFile,
        Or.inl (haccounts.leavesOut hsound hfound)⟩
    · exact absurd (hall.mpr hexamine) hrefused'.not_canExamineAll
    · exact absurd (hall.mp hexamine') hrefused.not_canExamineAll
    · exact Or.inr ⟨_, _, hrun, hrun'⟩

end Reading

section Loading

variable {settings : Settings} {path : Path}

/-- The files that are left out are noted in the log. -/
theorem perform_forM_noteSkipped (around : Surroundings) (w : World) (warnings : List Text) :
    ∃ events, (warnings.forM noteSkipped).perform around w = (.ok (), { w with events }) := by
  induction warnings generalizing w with
  | nil => exact ⟨w.events, rfl⟩
  | cons warning warnings ih =>
      obtain ⟨events, hrest⟩ := ih (w.noted
        { level := .warning, source := .catalog, message := "Skipping template"
          values := [("reason", .text warning)] })
      exact ⟨events, (perform_bind_ok around w (perform_note ..) _).trans hrest⟩

/-- What loading makes of the result of reading the directory of the templates. -/
def loaded : List Template × List Failure → List Template × List Text
  | (templates, failures) => (sort templates, failures.map Failure.message)

/-- Loading reads the directory of the templates, sorts them, and changes only the log. -/
theorem perform_load {outcome : Except Failure (List Template × List Failure)}
    (hpath : settings.templatesPath around.environment around.directory = .ok path)
    (hread : (ofDirectory path.toText).perform around w = (outcome, w)) :
    ∃ events, (load settings).perform around w = (outcome.map loaded, { w with events }) := by
  simp only [load, perform_bind, perform_read, perform_settle, hpath, hread]
  cases outcome with
  | error f => exact ⟨w.events, rfl⟩
  | ok result =>
      obtain ⟨events, hnotes⟩ :=
        perform_forM_noteSkipped around w (result.2.map Failure.message)
      simp only [hnotes]
      exact ⟨_, rfl⟩

/-- Without a directory of the templates there is nothing to load. -/
theorem perform_load_of_error {f : Failure}
    (hpath : settings.templatesPath around.environment around.directory = .error f) :
    (load settings).perform around w = (.error f, w) := by
  simp only [load, perform_bind, perform_read, perform_settle, hpath]

/--
Loading from a directory without links is reading its files in the order of their names, if the
templates are in catalog order then.
-/
theorem load_of_files {names : List Text} {templates : List Template} {failures : List Failure}
    (hpath : settings.templatesPath around.environment around.directory = .ok path)
    (hlist : (Disk.list path.toText).perform around w = (.ok entries, w))
    (hlinks : ∀ entry ∈ entries, entry.2.isLink = false)
    (hnames : (fileNames entries).mergeSort Text.le = names)
    (hread : (readTemplates path.toText names).perform around w = (.ok (templates, failures), w))
    (hsorted : templates.Pairwise fun t u => t.precedes u = true) :
    ((load settings).perform around w).1 = .ok (templates, failures.map Failure.message) := by
  have hno (name target : Text) : (name, Entry.link target) ∉ entries := fun hmem => by
    cases hlinks _ hmem
  obtain ⟨events, hload⟩ := perform_load hpath
    ((perform_ofDirectory hlist hno).trans (by rw [hnames, hread]))
  have hsort : loaded (templates, failures) = (templates, failures.map Failure.message) := by
    rw [loaded, sort, List.mergeSort_of_pairwise hsorted]
  rw [hload, ← hsort]
  rfl

/--
What is loaded does not depend on the order in which the entries of the directory are listed.
If there is a result in one order, there is the same in every other. The catalog has the
templates that are found in the directory, in the order of their ranks, no two of them alike.
The warnings are about the files whose reading fails, in the order of the names of these, or
there is one about the directory.
-/
theorem load_of_perm (settings : Settings) (around : Surroundings) {w v : World}
    (hsound : w.store.IsSound) (hperm : w.store.entries.Perm v.store.entries) :
    match ((load settings).perform around w).1 with
    | .error _ => ∃ g, ((load settings).perform around v).1 = .error g
    | .ok (catalog, warnings) =>
        ((load settings).perform around v).1 = .ok (catalog, warnings) ∧
        ∃ path templates failures,
          settings.templatesPath around.environment around.directory = .ok path ∧
          (ofDirectory path.toText).perform around w = (.ok (templates, failures), w) ∧
          (ofDirectory path.toText).perform around v = (.ok (templates, failures), v) ∧
          catalog.Perm templates ∧ ByRank catalog ∧
          warnings = failures.map Failure.message ∧
          InFileOrder around w path.toText (templates, failures) := by
  cases hpath : settings.templatesPath around.environment around.directory with
  | error f =>
      rw [perform_load_of_error hpath, perform_load_of_error hpath]
      exact ⟨f, rfl⟩
  | ok path =>
      rcases ofDirectory_of_perm hsound hperm path.toText with
        ⟨result, hrun, hrun', hbyFile, horder⟩ | ⟨f, g, hrun, hrun'⟩
      · obtain ⟨events, hload⟩ := perform_load hpath hrun
        obtain ⟨events', hload'⟩ := perform_load hpath hrun'
        rw [hload, hload']
        exact ⟨rfl, path, result.1, result.2, rfl, hrun, hrun',
          List.mergeSort_perm _ _, byRank_sort hbyFile, rfl, horder⟩
      · obtain ⟨events, hload⟩ := perform_load hpath hrun
        obtain ⟨events', hload'⟩ := perform_load hpath hrun'
        rw [hload, hload']
        exact ⟨g, rfl⟩

/-- A template that is called as another one, but for its file. -/
def twin (filename body : Text) : Template :=
  { filename, priority := 1, category := "a", name := "b", body }

/-- A directory with the files of two such templates and one of no template. -/
def twins : Store :=
  { entries :=
      [(["t"], .directory), (["t", "1-a-b.md"], .file 0o644 (Utf8.encode "hi")),
        (["t", "x.md"], .file 0o644 []), (["t", "01-a-b.md"], .file 0o644 (Utf8.encode "ho"))] }

theorem load_of_perm_twins :
    let settings : Settings := { templates := some (Path.ofText "/t") }
    let w : World := { store := twins }
    let v : World := { store := { entries := twins.entries.reverse } }
    let outcome : List Template × List Text :=
      ([twin "01-a-b.md" "ho", twin "1-a-b.md" "hi"], ["invalid template filename format: x.md"])
    w.store.IsSound ∧ w.store.entries.Perm v.store.entries ∧
      ((load settings).perform .plain w).1 = .ok outcome ∧
      ((load settings).perform .plain v).1 = .ok outcome := by
  intro settings w v outcome
  have hsound : w.store.IsSound :=
    ⟨⟨by decide +kernel, by decide +kernel⟩, by decide +kernel, by decide +kernel⟩
  have hperm : w.store.entries.Perm v.store.entries := (List.reverse_perm _).symm
  have hload : ((load settings).perform .plain w).1 = .ok outcome := by
    have hlinks : ∀ entry ∈ twins.children ["t"], entry.2.isLink = false := by decide +kernel
    have hnames : (fileNames (twins.children ["t"])).mergeSort Text.le =
        ["01-a-b.md", "1-a-b.md", "x.md"] := by
      have hfiles : fileNames (twins.children ["t"]) = ["1-a-b.md", "x.md", "01-a-b.md"] := by
        decide +kernel
      rw [hfiles]
      cbv
    have hread : (readTemplates (Path.ofText "/t").toText
        ["01-a-b.md", "1-a-b.md", "x.md"]).perform .plain w =
        (.ok ([twin "01-a-b.md" "ho", twin "1-a-b.md" "hi"],
          [.template { kind := .invalidFilename, detail := "x.md" }]), w) := by decide +kernel
    have hpath : settings.templatesPath Surroundings.plain.environment
        Surroundings.plain.directory = .ok (Path.ofText "/t") := by decide +kernel
    have hlist : (Disk.list (Path.ofText "/t").toText).perform .plain w =
        (.ok (twins.children ["t"]), w) := by decide +kernel
    exact load_of_files hpath hlist hlinks hnames hread (by decide +kernel)
  have hboth := load_of_perm settings .plain hsound hperm
  rw [hload] at hboth
  exact ⟨hsound, hperm, hload, hboth.1⟩

end Loading

end Catalog
end NoteTemplates
