import NoteTemplates.Proofs.Accounting

/-!
# One more entry in a directory

Two file systems that differ by one entry of a directory, and what reading the directory
gives in both. A name other than that of the entry leads to the same in both, provided that
no link of the directory leads over the entry; so every other file gives the same item, and
the items stand in the same order. What the entry itself may do is to add its own item or,
if it is a link whose walk is refused, to keep the whole directory from being read.
-/

namespace NoteTemplates

open Effect

/--
The second file system has one more entry in a directory, with all that is below it, and no
link in the directory leads over it.
-/
structure Store.HasExtra (s t : Store) (place : Place) (extra : Text) : Prop where
  vacant : s.get? (place ++ [extra]) = none
  same : ∀ q, ¬ place ++ [extra] <+: q → t.get? q = s.get? q
  apart : ∀ name target, (name, Entry.link target) ∈ s.children place →
    ∀ q, place ++ [extra] <+: q →
      ¬ Walk.LooksAt s q Walk.linkLimit (Walk.start place target) (Walk.names target)

/-- Where there are no links, one more entry is all that has to be looked for. -/
theorem Store.hasExtra_of_no_links {s t : Store} {place : Place} {extra : Text}
    (hvacant : s.get? (place ++ [extra]) = none)
    (hsame : ∀ q, q ≠ place ++ [extra] → t.get? q = s.get? q)
    (hlinks : ∀ name target, (name, Entry.link target) ∉ s.children place) :
    s.HasExtra t place extra := by
  refine ⟨hvacant, fun q hq => hsame q ?_, fun name target hmem => absurd hmem (hlinks name target)⟩
  rintro rfl
  exact hq (List.prefix_refl _)

namespace Store.HasExtra

variable {s t : Store} {base place : Place} {directory extra name : Text} {e : Entry}

theorem not_prefix_of_ne (hne : name ≠ extra) : ¬ place ++ [extra] <+: place ++ [name] := by
  intro h
  have hsame := (List.prefix_append_right_inj place).mp h
  simp only [List.cons_prefix_cons, List.prefix_nil, and_true] at hsame
  exact hne hsame.symm

/-- What a walk comes upon on its way to a directory is not the other entry. -/
theorem same_of_ne_none (h : s.HasExtra t place extra) (hs : s.IsSound) {q : Place}
    (hq : s.get? q ≠ none) : t.get? q = s.get? q :=
  h.same q fun hbelow => hq (hs.tree.get?_below (by simp) h.vacant hbelow)

/-- The directory is at its place with and without the other entry. -/
theorem find_directory (h : s.HasExtra t place extra) (hs : s.IsSound)
    (hfound : s.find base true directory = .ok (.found place .directory)) :
    t.find base true directory = .ok (.found place .directory) := by
  have hwalk := Store.find_eq_along hfound
  rw [hwalk] at hfound ⊢
  rw [← hfound]
  refine (Walk.along_congr _ _ _ fun q hq => ?_).symm
  exact (h.same_of_ne_none hs (Walk.get?_ne_none_of_looksAt _ _ _ hfound hq)).symm

/-- Another name in the directory leads to the same with and without the other entry. -/
theorem find_inside (h : s.HasExtra t place extra) (hs : s.IsSound)
    (hfound : s.find base true directory = .ok (.found place .directory))
    (hname : Path.isName name = true) (hne : name ≠ extra) :
    t.find base true (Disk.inside directory name) =
      s.find base true (Disk.inside directory name) := by
  have hdirectory := Disk.ne_nil_of_find hfound
  rw [Disk.find_inside_eq t base hdirectory hname, Disk.find_inside_eq s base hdirectory hname]
  split
  · rfl
  · refine (Walk.along_congr _ _ _ fun q hq => ?_).symm
    have hwalk := Disk.along_partsOf hfound
    rcases Walk.LooksAt.of_append _ _ _ hwalk hq with hway | ⟨left, hleft, hlast⟩
    · exact (h.same_of_ne_none hs (Walk.get?_ne_none_of_looksAt _ _ _ hwalk hway)).symm
    · -- the last name is looked at, and the way of a link that is there
      cases hlast with
      | here proper reached => exact (h.same q (reached ▸ not_prefix_of_ne hne)).symm
      | dot later => cases later
      | up later => cases later
      | down proper found later => cases later
      | onward proper link later =>
          rw [List.append_nil] at later
          have hmore := later.mono (show _ ≤ Walk.linkLimit by omega)
          exact (h.same q fun hbelow =>
            h.apart name _ (hs.mem_children.mpr link) q hbelow hmore).symm

/-- The other names in the directory are the same with and without the other entry. -/
theorem mem_children (h : s.HasExtra t place extra) (hs : s.IsSound) (ht : t.IsSound)
    (hne : name ≠ extra) : (name, e) ∈ t.children place ↔ (name, e) ∈ s.children place := by
  rw [ht.mem_children, hs.mem_children, h.same _ (not_prefix_of_ne hne)]

/-- The other entry is not in the directory without it. -/
theorem notMem_children (h : s.HasExtra t place extra) (hs : s.IsSound) :
    (extra, e) ∉ s.children place := by
  rw [hs.mem_children, h.vacant]
  simp

end Store.HasExtra

namespace Catalog

variable {around : Surroundings} {s t : Store} {base place : Place} {directory extra name : Text}

/-- Another name is a candidate with and without the other entry. -/
theorem isCandidate_iff_of_ne (h : s.HasExtra t place extra) (hs : s.IsSound) (ht : t.IsSound)
    (hfound : s.find base true directory = .ok (.found place .directory)) (hne : name ≠ extra) :
    IsCandidate t base directory (t.children place) name ↔
      IsCandidate s base directory (s.children place) name := by
  simp only [IsCandidate, h.mem_children hs ht hne]
  refine and_congr_right fun _ => exists_congr fun e => and_congr_right fun hmem => ?_
  rw [Disk.IsRegular, Disk.IsRegular,
    h.find_inside hs hfound (hs.name_of_mem_children hmem).1 hne]

/-- The other entry is no candidate without it. -/
theorem ne_of_isCandidate (h : s.HasExtra t place extra) (hs : s.IsSound)
    (hname : IsCandidate s base directory (s.children place) name) : name ≠ extra := by
  rintro rfl
  obtain ⟨-, e, hmem, -⟩ := hname
  exact h.notMem_children hs hmem

/-- All entries can be examined if all could without the other one, and that one can. -/
theorem canExamineAll_iff (h : s.HasExtra t place extra) (hs : s.IsSound) (ht : t.IsSound)
    (hfound : s.find base true directory = .ok (.found place .directory)) :
    CanExamineAll t base directory (t.children place) ↔
      CanExamineAll s base directory (s.children place) ∧
        ∀ e, t.get? (place ++ [extra]) = some e → Text.endsWith Filename.suffix extra = true →
          Disk.CanExamine t base (Disk.inside directory extra) e := by
  have hother (name : Text) (e : Entry) (hne : name ≠ extra)
      (hmem : (name, e) ∈ s.children place) :
      Disk.CanExamine t base (Disk.inside directory name) e ↔
        Disk.CanExamine s base (Disk.inside directory name) e := by
    rw [Disk.CanExamine, Disk.CanExamine,
      h.find_inside hs hfound (hs.name_of_mem_children hmem).1 hne]
  constructor
  · intro hall
    refine ⟨fun name e hmem hends => ?_, fun e he hends =>
      hall extra e (ht.mem_children.mpr he) hends⟩
    have hne : name ≠ extra := by
      rintro rfl
      exact h.notMem_children hs hmem
    exact (hother name e hne hmem).mp
      (hall name e ((h.mem_children hs ht hne).mpr hmem) hends)
  · rintro ⟨hall, hextra⟩ name e hmem hends
    by_cases hne : name = extra
    · subst hne
      exact hextra e (ht.mem_children.mp hmem) hends
    · have hmem' := (h.mem_children hs ht hne).mp hmem
      exact (hother name e hne hmem').mpr (hall name e hmem' hends)

/--
The items of a directory with one more entry are those without it and, if it is a candidate,
its own item among them.
-/
theorem Accounts.of_extra {names names' : List Text}
    {result result' : List Template × List Failure} (h : s.HasExtra t place extra)
    (hs : s.IsSound) (ht : t.IsSound)
    (hfound : s.find around.base true directory = .ok (.found place .directory))
    (hresult : Accounts around s directory (s.children place) names result)
    (hresult' : Accounts around t directory (t.children place) names' result') :
    ∃ before after, result = sift (before ++ after) ∧
      (IsCandidate t around.base directory (t.children place) extra ∧
          result' = sift (before ++ item around t directory extra :: after) ∨
        ¬ IsCandidate t around.base directory (t.children place) extra ∧
          result' = sift (before ++ after)) := by
  have hold (name : Text) (hname : name ∈ names) :
      item around s directory name = item around t directory name := by
    have hcandidate := (hresult.candidates name).mp hname
    have ⟨_, e, hmem, _⟩ := hcandidate
    exact item_congr (h.find_inside hs hfound (hs.name_of_mem_children hmem).1
      (ne_of_isCandidate h hs hcandidate)).symm
  have hitems : result = sift (names.map (item around t directory)) := by
    rw [hresult.result_eq, List.map_congr_left hold]
  have hmem (name : Text) : name ∈ names ↔ name ∈ names' ∧ name ≠ extra := by
    rw [hresult.candidates, hresult'.candidates]
    constructor
    · intro hname
      have hne := ne_of_isCandidate h hs hname
      exact ⟨(isCandidate_iff_of_ne h hs ht hfound hne).mpr hname, hne⟩
    · rintro ⟨hname, hne⟩
      exact (isCandidate_iff_of_ne h hs ht hfound hne).mp hname
  -- without the other name, the names in order are the same
  have hnames : ∀ others : List Text,
      (others.Pairwise fun name other => Text.le name other = true ∧ name ≠ other) →
      (∀ name, name ∈ others ↔ name ∈ names' ∧ name ≠ extra) → names = others := by
    intro others hordered hothers
    have hperm : names.Perm others :=
      (List.perm_ext_iff_of_nodup (hresult.ordered.imp And.right) (hordered.imp And.right)).mpr
        fun name => (hmem name).trans (hothers name).symm
    exact Text.eq_of_perm_of_pairwise_le hperm (hresult.ordered.imp And.left)
      (hordered.imp And.left)
  by_cases hextra : extra ∈ names'
  · obtain ⟨before, after, hsplit⟩ := List.append_of_mem hextra
    have hordered := hresult'.ordered
    rw [hsplit] at hordered
    have hnodup : (before ++ extra :: after).Nodup := hordered.imp And.right
    have heq := hnames (before ++ after)
      (hordered.sublist ((List.sublist_cons_self extra after).append_left before)) fun name => by
        rw [hsplit]
        rw [List.nodup_middle, List.nodup_cons] at hnodup
        by_cases hne : name = extra
        · subst hne
          simp [hnodup.1]
        · simp [hne]
    refine ⟨before.map (item around t directory), after.map (item around t directory), ?_,
      Or.inl ⟨(hresult'.candidates extra).mp hextra, ?_⟩⟩
    · rw [hitems, heq, List.map_append]
    · rw [hresult'.result_eq, hsplit, List.map_append, List.map_cons]
  · have heq := hnames names' hresult'.ordered fun name => by
      constructor
      · intro hname
        exact ⟨hname, fun hne => hextra (hne ▸ hname)⟩
      · exact And.left
    refine ⟨names.map (item around t directory), [], by rw [hitems, List.append_nil],
      Or.inr ⟨fun hcandidate => hextra ((hresult'.candidates extra).mpr hcandidate), ?_⟩⟩
    rw [hresult'.result_eq, heq, List.append_nil]

/-- Whether reading a directory ends with a result, and what the ending says. -/
theorem ofDirectory_outcome {w : World} (hsound : w.store.IsSound) (hnul : '\x00' ∉ directory)
    (hlist : (Disk.list directory).perform around w = (.ok (w.store.children place), w)) :
    let entries := w.store.children place
    let run := (ofDirectory directory).perform around w
    ((∃ result, run.1 = .ok result) ↔
      CanExamineAll w.store around.base directory entries) ∧
    (∀ f, run.1 = .error f → ∃ name errno,
      IsRefused w.store around.base directory entries name errno ∧
      f = .system { errno, paths := [Disk.inside directory name] }) ∧
    ∀ result, run.1 = .ok result →
      ∃ names, Accounts around w.store directory entries names result := by
  intro entries run
  rcases ofDirectory_cases hsound hnul hlist with
    ⟨hall, names, result, haccounts, hrun⟩ | ⟨name, errno, hrefused, hrun⟩
  · have hrun : run = _ := hrun
    rw [hrun]
    refine ⟨iff_of_true ⟨result, rfl⟩ hall, nofun, fun other hother => ?_⟩
    cases hother
    exact ⟨names, haccounts⟩
  · have hrun : run = _ := hrun
    rw [hrun]
    refine ⟨iff_of_false (by simp) hrefused.not_canExamineAll, fun f hf => ?_, nofun⟩
    cases hf
    exact ⟨name, errno, hrefused, rfl⟩

/--
What reading a directory that can be listed gives, and what one more entry in it does. It ends
with a result if and only if every entry that ends like a template can be examined; else it
fails for one that cannot. A result accounts for the entries: every one that ends like a
template and leads to a file gives one item, a template with the name of the entry and the
text in the file, or a failure. One more entry to which no link of the directory leads keeps
reading from its end if and only if it cannot be examined itself, and leaves the items of the
others and their order alone.
-/
theorem ofDirectory_isolated (around : Surroundings) {w v : World} {directory : Text}
    {place : Place} {extra : Text} (hw : w.store.IsSound) (hv : v.store.IsSound)
    (hfound : w.store.find around.base true directory = .ok (.found place .directory))
    (hlist : ∃ entries, ((Disk.list directory).perform around w).1 = .ok entries)
    (hextra : w.store.HasExtra v.store place extra) :
    let entries := w.store.children place
    let run := (ofDirectory directory).perform around w
    let run' := (ofDirectory directory).perform around v
    ((∃ result, run.1 = .ok result) ↔
      CanExamineAll w.store around.base directory entries) ∧
    (∀ f, run.1 = .error f → ∃ name errno,
      IsRefused w.store around.base directory entries name errno ∧
      f = .system { errno, paths := [Disk.inside directory name] }) ∧
    (∀ result, run.1 = .ok result →
      ∃ names, Accounts around w.store directory entries names result) ∧
    ((∃ result, run'.1 = .ok result) ↔
      (∃ result, run.1 = .ok result) ∧
      ∀ e, v.store.get? (place ++ [extra]) = some e → Text.endsWith Filename.suffix extra = true →
        Disk.CanExamine v.store around.base (Disk.inside directory extra) e) ∧
    ∀ result result', run.1 = .ok result → run'.1 = .ok result' →
      ∃ before after, result = sift (before ++ after) ∧
        (IsCandidate v.store around.base directory (v.store.children place) extra ∧
            result' = sift (before ++ item around v.store directory extra :: after) ∨
          ¬ IsCandidate v.store around.base directory (v.store.children place) extra ∧
            result' = sift (before ++ after)) := by
  intro entries run run'
  obtain ⟨_, hentries⟩ := hlist
  obtain ⟨hnul, hlisting⟩ := Disk.list_ok hentries
  have hfound' := hextra.find_directory hw hfound
  obtain ⟨hreturns, hfails, haccounts⟩ :=
    ofDirectory_outcome hw hnul (by rw [hlisting, Disk.listing, hfound])
  obtain ⟨hreturns', -, haccounts'⟩ :=
    ofDirectory_outcome hv hnul (by rw [hlisting, Disk.listing, hfound'])
  refine ⟨hreturns, hfails, haccounts, ?_, fun result result' hresult hresult' => ?_⟩
  · rw [hreturns', hreturns]
    exact canExamineAll_iff hextra hw hv hfound
  · obtain ⟨names, hnames⟩ := haccounts result hresult
    obtain ⟨names', hnames'⟩ := haccounts' result' hresult'
    exact hnames.of_extra hextra hw hv hfound hnames'

/-- A directory with one template in it, and a file beside the directory. -/
def besideFile : Store :=
  { entries :=
      [(["t"], .directory),
       (["t", "1-a-b.md"], .file 0o644 (Utf8.encode "hi")),
       (["f"], .file 0o644 (Utf8.encode "x"))] }

/-- A link that leads on from a file keeps a directory with a good template from being read. -/
theorem ofDirectory_isolated_link_over_file :
    let around := Surroundings.plain
    let w : World := { store := besideFile }
    let v : World := { store := besideFile.insert ["t", "x.md"] (.link "../f/y") }
    w.store.IsSound ∧ v.store.IsSound ∧ w.store.HasExtra v.store ["t"] "x.md" ∧
      w.store.find around.base true "/t" = .ok (.found ["t"] .directory) ∧
      (∃ entries, ((Disk.list "/t").perform around w).1 = .ok entries) ∧
      (∃ result, ((ofDirectory "/t").perform around w).1 = .ok result) ∧
      ¬ ∃ result, ((ofDirectory "/t").perform around v).1 = .ok result := by
  intro around w v
  have hw : w.store.IsSound :=
    ⟨⟨by decide +kernel, by decide +kernel⟩, by decide +kernel, by decide +kernel⟩
  have hv : v.store.IsSound :=
    ⟨⟨by decide +kernel, by decide +kernel⟩, by decide +kernel, by decide +kernel⟩
  have hentries : w.store.children ["t"] =
      [(("1-a-b.md" : Text), Entry.file 0o644 (Utf8.encode "hi"))] := by decide +kernel
  have hextra : w.store.HasExtra v.store ["t"] "x.md" := by
    refine ⟨by decide +kernel, fun q hq => ?_, fun name target hmem => ?_⟩
    · exact Store.get?_insert_of_ne _ _ (fun heq => hq (heq ▸ List.prefix_refl _))
    · rw [hentries] at hmem
      simp at hmem
  have hfound : w.store.find around.base true "/t" = .ok (.found ["t"] .directory) := by
    decide +kernel
  have hlist : ∃ entries, ((Disk.list "/t").perform around w).1 = .ok entries :=
    ⟨w.store.children ["t"], by decide +kernel⟩
  obtain ⟨hreturns, -, -, hreturns', -⟩ :=
    ofDirectory_isolated around hw hv hfound hlist hextra
  have hrefused : v.store.find around.base true (Disk.inside "/t" "x.md") =
      .error .notDirectory := by decide +kernel
  refine ⟨hw, hv, hextra, hfound, hlist, hreturns.mpr fun name e hmem _ => ?_, ?_⟩
  · rw [hentries] at hmem
    cases List.mem_singleton.mp hmem
    exact nofun
  · rw [hreturns']
    rintro ⟨-, hall⟩
    have hnone := hall (.link "../f/y") (by decide +kernel) (by decide) rfl _ hrefused
    exact absurd hnone (by decide)

end Catalog
end NoteTemplates
