import NoteTemplates.Proofs.Additions
import NoteTemplates.Proofs.Encoding
import NoteTemplates.Proofs.Scaffolding
import NoteTemplates.Proofs.Starters

/-!
# New templates come back

A new template is written and the catalog is loaded again. The file is found in the directory
of the templates, its bytes are decoded to the text that was written, and the text and the name
of the file are read as what they were made of. The rest of the catalog is that of the directory
without the file. The directory may have been made for the file, which can only make a
difference to the rest if there is a double dot in its path.
-/

namespace NoteTemplates

open Effect

namespace Path

variable {s : Store} {base : Place} {p : Path} {n : Step} {landing : Landing}

/-- A path that leads anywhere is short, and so is its last name. -/
theorem short_of_find_snoc (hup : n.val ≠ "..")
    (h : s.find base false (p.snoc n).toText = .ok landing) :
    Text.byteLength (p.snoc n).toText < Walk.pathLimit ∧
      Text.byteLength n.val ≤ Walk.nameLimit := by
  have hproper := n.isProper hup
  rcases find_last s base (steps_snoc p n) with ⟨directory, left, -, hlook⟩ | ⟨-, herr⟩
  · have hlast := h
    rw [hlook, Walk.along_singleton hproper s left directory (by simp)] at hlast
    rw [find_toText] at h
    split at h
    · cases h
    · split at hlast
      · cases hlast
      · omega
  · obtain ⟨errno, herr⟩ := herr false
    rw [herr] at h
    cases h

/-- A name in a directory makes a short path if the path of the name is short. -/
theorem byteLength_inside_lt (hpath : Text.byteLength (p.snoc n).toText < Walk.pathLimit)
    (hname : Text.byteLength n.val ≤ Walk.nameLimit) :
    Text.byteLength (Disk.inside p.toText n.val) < Walk.pathLimit := by
  rcases Catalog.toText_child_cases p n.property with heq | ⟨-, hinside⟩
  · rw [← heq, child_of_isName p n.property]
    exact hpath
  · have hdot : Text.byteLength ['.', '/'] = 2 := by decide
    have hlimits : Walk.nameLimit + 2 < Walk.pathLimit := by decide
    rw [hinside, Text.byteLength_append]
    omega

/-- No NUL is in the path of a directory if none is in that of a name in it. -/
theorem nul_notMem_of_snoc (h : '\x00' ∉ (p.snoc n).toText) : '\x00' ∉ p.toText := by
  have hbegins : p.toText <+: Disk.inside p.toText n.val := by
    rw [Disk.inside]
    split
    · exact List.prefix_append _ _
    · exact (List.prefix_append _ _).trans (List.prefix_append _ _)
  have hinside : '\x00' ∉ Disk.inside p.toText n.val := by
    rw [← child_of_isName p n.property] at h
    rcases Catalog.toText_child_cases p n.property with heq | ⟨heq, hdot⟩
    · rwa [← heq]
    · rw [heq] at h
      rw [hdot, List.mem_append, not_or]
      exact ⟨by decide, h⟩
  exact fun hmem => hinside (hbegins.subset hmem)

end Path

/-- A file is there that was not there before. -/
def Store.HasNewFile (s t : Store) : Prop :=
  ∃ p mode bytes, t.get? p = some (.file mode bytes) ∧ s.get? p ≠ some (.file mode bytes)

namespace Materialization

variable {around : Surroundings} {target path : Path} {n : Path.Step} {content : Text}
  {w v : World} {landing : Landing}

/--
The file of a note came into the directory to which a path leads, which holds no links, and
the name in the directory leads to it.
-/
structure Gains (around : Surroundings) (path : Path) (place : Place) (n : Path.Step)
    (content : Text) (s t : Store) : Prop where
  sound : s.IsSound
  sound_after : t.IsSound
  directory : s.find around.base true path.toText = .ok (.found place .directory)
  extra : s.HasExtra t place n.val
  no_links : ∀ name target, (name, Entry.link target) ∉ t.children place
  whole : '\x00' ∉ path.toText ∧ '\x00' ∉ n.val
  file : t.get? (place ++ [n.val]) = some (.file Disk.defaultMode (Utf8.encode content))
  short : Text.byteLength n.val ≤ Walk.nameLimit
  leads : t.find around.base true (Disk.inside path.toText n.val) =
    .ok (.found (place ++ [n.val]) (.file Disk.defaultMode (Utf8.encode content)))

/-- A note that is written into a directory without links came into it. -/
theorem Written.gains (h : Written around (path.snoc n) content w landing v)
    (hsound : w.store.IsSound) (hbase : w.store.HasDirectory around.base)
    (hnul : '\x00' ∉ (path.snoc n).toText) (hup : n.val ≠ "..")
    (hlinks : ∀ place,
      (Disk.prepared around w.store path).find around.base true path.toText =
        .ok (.found place .directory) →
      ∀ name target, (name, Entry.link target) ∉ w.store.children place) :
    ∃ place, Gains around path place n content (Disk.prepared around w.store path) v.store := by
  obtain ⟨place, m, hsteps, hfound, hplace⟩ := h.place_eq
  obtain rfl : n = m := by simpa using (Path.steps_snoc path n).symm.trans hsteps
  have hstore := h.store_eq
  have hlands := h.lands
  have hislink := fun e => h.isLink (e := e)
  rw [Path.parent_snoc] at hfound hlands
  rw [Path.parent_snoc, hplace] at hstore hislink
  have hgrows := Disk.grows_prepared around w.store path
  have hnames : ∀ m ∈ (path.snoc n).steps, '\x00' ∉ m.val := fun m hm hmem =>
    hnul ((Path.infix_toText hm).subset hmem)
  have hprepared := hgrows.isSound hsound hbase fun m hm => hnames m (by simp [Path.snoc, hm])
  have hno := hgrows.no_links (hlinks place hfound)
  have hvacant : (Disk.prepared around w.store path).get? (place ++ [n.val]) = none := by
    rw [Option.eq_none_iff_forall_ne_some]
    intro e he
    obtain ⟨target, rfl⟩ : ∃ target, e = .link target := by
      cases e with
      | link target => exact ⟨target, rfl⟩
      | file mode bytes => cases hislink _ he
      | directory => cases hislink _ he
    exact hno _ _ (hprepared.mem_children.mpr he)
  have hroom : (Disk.prepared around w.store path).HasRoom (place ++ [n.val]) := by
    cases landing with
    | vacant p =>
        rw [← hplace]
        exact Store.hasRoom_of_find_vacant hprepared.tree (hbase.of_keeps hgrows.keeps) hlands
    | found p e =>
        have hlink := h.link p e rfl
        have he : e ≠ .directory := by
          rintro rfl
          cases hlink
        have hget := Store.get?_of_find_found he hlands
        rw [show p = place ++ [n.val] from hplace, hvacant] at hget
        cases hget
  have hafter : v.store.IsSound := by
    rw [hstore]
    refine hprepared.insert hroom (by simp [hvacant]) (fun name hname => ?_) _
    rw [List.getLast?_concat] at hname
    cases hname
    exact hnames n (by simp [Path.snoc])
  have hfile : v.store.get? (place ++ [n.val]) =
      some (.file Disk.defaultMode (Utf8.encode content)) := by
    rw [hstore, Store.get?_insert_self]
  have hextra : (Disk.prepared around w.store path).HasExtra v.store place n.val :=
    Store.hasExtra_of_no_links hvacant
      (fun q hq => by rw [hstore, Store.get?_insert_of_ne _ _ hq]) hno
  obtain ⟨hlong, hshort⟩ := Path.short_of_find_snoc hup hlands
  refine ⟨place, hprepared, hafter, hfound, hextra, ?_, ?_, hfile, hshort, ?_⟩
  · intro name target hmem
    have hget := hafter.mem_children.mp hmem
    by_cases hname : name = n.val
    · rw [hname, hfile] at hget
      cases hget
    · exact hno name target
        ((hextra.mem_children hprepared hafter hname).mp hmem)
  · exact ⟨Path.nul_notMem_of_snoc hnul, hnames n (by simp [Path.snoc])⟩
  · rw [Catalog.find_inside_of_found hup (hextra.find_directory hprepared hfound) (by simp [hfile]),
      if_neg (Nat.not_le.mpr (Path.byteLength_inside_lt hlong hshort)),
      if_neg (Nat.not_lt.mpr hshort), hfile]
    rfl

end Materialization

namespace Catalog

variable {around : Surroundings} {settings : Settings} {path : Path} {place : Place}
  {n : Path.Step} {content : Text} {w v : World} {t : Store} {u : Template}

/-- What is loaded when the file of a template came into the directory of the templates. -/
theorem load_of_gains
    (h : Materialization.Gains around path place n content w.store v.store)
    (hlist : around.Spares .list) (hopen : around.Spares .openFile)
    (hpath : settings.templatesPath around.environment around.directory = .ok path)
    (hsuffix : Text.endsWith Filename.suffix n.val = true)
    (hparse : Template.parse (Disk.inside path.toText n.val) content = .ok u) :
    ∃ before after warnings,
      ((load settings).perform around w).1 = .ok (before ++ after, warnings) ∧
      ((load settings).perform around v).1 = .ok (before ++ u :: after, warnings) ∧
      ByRank (before ++ u :: after) := by
  have hentries : ((Disk.list path.toText).perform around w).1 =
      .ok (w.store.children place) := by
    rw [Disk.list_of_found hlist h.whole.1 h.directory]
  have hcandidate : IsCandidate v.store around.base path.toText (v.store.children place) n.val :=
    ⟨hsuffix, _, h.sound_after.mem_children.mpr h.file, Or.inl rfl⟩
  have hitem : item around v.store path.toText n.val = .ok u :=
    item_of_file hopen (Disk.nul_notMem_inside h.whole.1 h.whole.2) (by decide) h.leads
      (Utf8.decode_encode content) hparse
  exact load_of_extra h.sound h.sound_after h.extra hpath h.directory ⟨_, hentries⟩ h.no_links
    hcandidate hitem

/--
Making the directory of the templates does not change what is loaded, if it was there, or no
double dot is in its path, or the directory to which the path leads was not there.
-/
theorem load_of_grows (htree : w.store.IsTree)
    (hpath : settings.templatesPath around.environment around.directory = .ok path)
    (hgrows : Store.Grows around.base path w.store t)
    (hfound : t.find around.base true path.toText = .ok (.found place .directory))
    (h : (∃ r, w.store.find around.base true path.toText = .ok (.found r .directory)) ∨
      (∀ n ∈ path.steps, n.val ≠ "..") ∨ ¬ w.store.HasDirectory place) :
    ((load settings).perform around { w with store := t }).1 =
      ((load settings).perform around w).1 := by
  by_cases hthere : ∃ r, w.store.find around.base true path.toText = .ok (.found r .directory)
  · obtain ⟨r, hr⟩ := hthere
    rw [hgrows.eq_of_found hr]
  · have hbefore : ∀ r, w.store.find around.base true path.toText ≠ .ok (.found r .directory) :=
      fun r hr => hthere ⟨r, hr⟩
    have hnew (name : Text) (e : Entry) : (place ++ [name], e) ∉ w.store.entries := by
      intro hmem
      rcases h.resolve_left hthere with hup | hdir
      · exact Store.get?_ne_none_of_mem hmem
          (hgrows.fresh htree hup hbefore hfound (List.prefix_append place [name]))
      · have hdirectory := htree.inDirectory _ hmem
        rw [List.dropLast_concat] at hdirectory
        exact hdir hdirectory
    have hs : Bare w.store around.base path :=
      Or.inl ((hgrows.keeps.found_or_lacks hfound).resolve_left (hbefore place))
    have ht : Bare t around.base path := bare_of_fresh hgrows hfound hnew
    have halike : EndsAlike around w.store t (load settings) := by
      refine endsAlike_load fun directory hdirectory => ?_
      rw [hpath] at hdirectory
      cases hdirectory
      exact endsAlike_of_bare hs ht
    exact (halike w { w with store := t } rfl rfl).symm

end Catalog

namespace Notebook

variable (book : Notebook) {around : Surroundings} {w : World} {name category : Text}
  {priority : Int}

/-- A new template that is written is written into the directory of the templates. -/
theorem written_of_scaffold (openEditor : Bool) (hspares : around.Spares .remove)
    (hslash : '/' ∉ category)
    (hwrites :
      let run := (book.scaffold name priority category openEditor).perform around w
      (∃ p, run.1 = .ok p) ∨ w.store.HasNewFile run.2.store) :
    allowed name priority category = true ∧
    ∃ (path : Path) (n : Path.Step) (landing : Landing),
      n.val = Filename.assemble priority category name ∧
      book.settings.templatesPath around.environment around.directory = .ok path ∧
      '\x00' ∉ (path.snoc n).toText ∧
      Materialization.Written around (path.snoc n) (starter name) w landing
        ((book.scaffold name priority category openEditor).perform around w).2 := by
  rcases book.scaffold_outcome name priority openEditor w hspares hslash with
    ⟨⟨f, hf⟩, hadds⟩ | ⟨hallowed, path, n, landing, hn, hpath, hnul, hwritten, -⟩
  · rcases hwrites with ⟨p, hp⟩ | ⟨p, mode, bytes, hnew, hold⟩
    · rw [hf] at hp
      cases hp
    · rcases hadds with hsame | ⟨path, -, hgrows⟩
      · exact absurd (hsame ▸ hnew) hold
      · exact absurd (hgrows.get?_of_ne_directory hnew (by simp)) hold
  · exact ⟨hallowed, path, n, landing, hn, hpath, hnul, hwritten⟩

/--
The directory of the templates, where its path leads once the missing directories on its way
are made, holds no links if it was there before.
-/
def HoldsNoLinks (around : Surroundings) (s : Store) : Prop :=
  ∀ path place, book.settings.templatesPath around.environment around.directory = .ok path →
    (Disk.prepared around s path).find around.base true path.toText =
      .ok (.found place .directory) →
    s.HasDirectory place → ∀ name target, (name, Entry.link target) ∉ s.children place

theorem holdsNoLinks_of_entries {s : Store} (h : ∀ entry ∈ s.entries, entry.2.isLink = false) :
    book.HoldsNoLinks around s := by
  intro path place _ _ _ name target hmem
  cases h _ (Store.mem_children.mp hmem)

/--
A new template that is written comes back. In a file system where no call is made to fail, and
with no links in the directory of the templates, the catalog that is loaded afterwards has one
more template, in its place by rank, and otherwise the templates and the warnings that are
loaded once the directory is made, in the same order. The new template has the priority, the
category and the name that were asked for, no declarations, one question, and a target, which
is told in full if the name is on one line.

Making the directory changes nothing about what was loaded before, if the path led to a
directory then, or has no double dots in it, or leads to a directory that was not there.
-/
theorem scaffold_comes_back (openEditor : Bool) (hsound : w.store.IsSound)
    (hbase : w.store.HasDirectory around.base) (hfaults : around.faults = [])
    (hslash : '/' ∉ category) (hlinks : book.HoldsNoLinks around w.store)
    (hwrites :
      let run := (book.scaffold name priority category openEditor).perform around w
      (∃ p, run.1 = .ok p) ∨ w.store.HasNewFile run.2.store) :
    let run := (book.scaffold name priority category openEditor).perform around w
    ∃ path place before after warnings t,
      book.settings.templatesPath around.environment around.directory = .ok path ∧
      (Disk.prepared around w.store path).find around.base true path.toText =
        .ok (.found place .directory) ∧
      (book.load.perform around { w with store := Disk.prepared around w.store path }).1 =
        .ok (before ++ after, warnings) ∧
      (book.load.perform around run.2).1 = .ok (before ++ t :: after, warnings) ∧
      Catalog.ByRank (before ++ t :: after) ∧
      IsStarter (Filename.assemble priority category name) priority category name t ∧
      ((∃ r, w.store.find around.base true path.toText = .ok (.found r .directory)) ∨
          (∀ n ∈ path.steps, n.val ≠ "..") ∨ ¬ w.store.HasDirectory place →
        (book.load.perform around w).1 = .ok (before ++ after, warnings)) := by
  intro run
  have hspares (call : Call) : around.Spares call := fun fault hmem => by
    rw [hfaults] at hmem
    cases hmem
  obtain ⟨hallowed, path, n, landing, hn, hpath, hnul, hwritten⟩ :=
    book.written_of_scaffold openEditor (hspares .remove) hslash hwrites
  obtain ⟨⟨⟨⟨hpriority, hdash⟩, -⟩, hname⟩, -⟩ :
      (((0 ≤ priority ∧ '-' ∉ category) ∧ _) ∧ '/' ∉ name) ∧ _ := by
    simpa only [allowed, Bool.and_eq_true, decide_eq_true_eq] using hallowed
  have hsuffix : Filename.suffix <:+ n.val := hn ▸ List.suffix_append _ _
  have hup : n.val ≠ ".." := by
    rintro hup
    rw [hup] at hsuffix
    exact absurd hsuffix (by decide)
  have hno (place : Place) (hfound : (Disk.prepared around w.store path).find around.base true
      path.toText = .ok (.found place .directory)) (other target : Text) :
      (other, Entry.link target) ∉ w.store.children place := by
    intro hmem
    have hdirectory := hsound.tree.inDirectory _ (Store.mem_children.mp hmem)
    rw [List.dropLast_concat] at hdirectory
    exact hlinks path place hpath hfound hdirectory other target hmem
  obtain ⟨place, hgains⟩ := hwritten.gains hsound hbase hnul hup hno
  have hfile : Filename.ofText (Path.ofText (Disk.inside path.toText n.val)).name =
      .ok ⟨priority.toNat, category, name⟩ := by
    have hshort := Filename.length_beforeDash_le hgains.short
    rw [Disk.name_ofText_inside _ n.property]
    rw [hn] at hshort ⊢
    exact Filename.ofText_assemble hpriority hdash hshort
  obtain ⟨t, hparse, hstarter⟩ := parse_starter hname hfile
  rw [Disk.name_ofText_inside _ n.property, hn, Int.toNat_of_nonneg hpriority] at hstarter
  obtain ⟨before, after, warnings, hload, hload', hranks⟩ :=
    Catalog.load_of_gains (w := { w with store := Disk.prepared around w.store path })
      hgains (hspares .list) (hspares .openFile) hpath (Text.endsWith_iff.mpr hsuffix) hparse
  refine ⟨path, place, before, after, warnings, t, hpath, hgains.directory, hload, hload', hranks,
    hstarter, fun h => ?_⟩
  have hgrows := Disk.grows_prepared around w.store path
  exact (Catalog.load_of_grows hsound.tree hpath hgrows hgains.directory h).symm.trans hload

/-- A new template beside another one, with dashes and an ending in its name. -/
theorem scaffold_comes_back_beside_old :
    let w : World := { store := Materialization.oneTemplate }
    let run := (plain.scaffold "a-b.md" 1 "n" false).perform .plain w
    w.store.IsSound ∧ run.1 = .ok (Path.ofText "/n/templates/1-n-a-b.md.md") ∧
      ∃ before after warnings t,
        (plain.load.perform .plain w).1 = .ok (before ++ after, warnings) ∧
        (plain.load.perform .plain run.2).1 = .ok (before ++ t :: after, warnings) ∧
        t.priority = 1 ∧ t.category = "n" ∧ t.name = "a-b.md" ∧
        t.target = "\x7b$base_dir\x7d/a-b.md/\x7b$date\x7d.md" := by
  intro w run
  have hsound : w.store.IsSound :=
    ⟨⟨by decide +kernel, by decide +kernel⟩, by decide +kernel, by decide +kernel⟩
  have hlinks : plain.HoldsNoLinks .plain w.store :=
    plain.holdsNoLinks_of_entries (by decide +kernel)
  have hrun : run.1 = .ok (Path.ofText "/n/templates/1-n-a-b.md.md") := by decide +kernel
  have hpath : plain.settings.templatesPath Surroundings.plain.environment
      Surroundings.plain.directory = .ok (Path.ofText "/n/templates") := by decide +kernel
  have hfound : w.store.find Surroundings.plain.base true (Path.ofText "/n/templates").toText =
      .ok (.found ["n", "templates"] .directory) := by decide +kernel
  obtain ⟨path, place, before, after, warnings, t, hpath', -, -, hload, -, hstarter, hsame⟩ :=
    plain.scaffold_comes_back false hsound (Or.inl rfl) rfl (by decide) hlinks
      (Or.inl ⟨_, hrun⟩)
  rw [hpath] at hpath'
  cases hpath'
  exact ⟨hsound, hrun, before, after, warnings, t, hsame (Or.inl ⟨_, hfound⟩), hload,
    hstarter.priority_eq, hstarter.category_eq, hstarter.name_eq, hstarter.target_eq (by decide)⟩

section Turning

/-- A notebook whose templates are said to be in another directory than one that is missing. -/
def turnedBook : Notebook :=
  { settings := { templates := some (Path.ofText "/a/../t") } }

/-- The other directory, with a template in it. -/
def turnedWorld : World :=
  { store :=
      { entries := [(["t"], .directory), (["t", "1-n-old.md"], .file 0o644 (Utf8.encode "hi"))] } }

/-- The template that is there. -/
def turnedOld : Template :=
  { filename := "1-n-old.md", priority := 1, category := "n", name := "old", body := "hi" }

/-- The new one. -/
def turnedNew : Template :=
  { filename := "1-n-new.md", priority := 1, category := "n", name := "new"
    body := starter "new", target := "\x7b$base_dir\x7d/new/\x7b$date\x7d.md"
    questions := [starterQuestion] }

/-- What comes of making a new template. -/
def turnedRun : Except Failure Path × World :=
  (turnedBook.scaffold "new" 1 "n" false).perform .plain turnedWorld

theorem templatesPath_turned :
    turnedBook.settings.templatesPath Surroundings.plain.environment
      Surroundings.plain.directory = .ok (Path.ofText "/a/../t") := by
  decide +kernel

theorem load_turned : (turnedBook.load.perform .plain turnedWorld).1 = .ok ([], []) := by
  have hread : (Catalog.ofDirectory (Path.ofText "/a/../t").toText).perform .plain turnedWorld =
      (.ok ([], []), turnedWorld) := by decide +kernel
  have hnil : Catalog.loaded ([], []) = ([], []) := by
    rw [Catalog.loaded, Catalog.sort, List.mergeSort_nil, List.map_nil]
  obtain ⟨events, hload⟩ := Catalog.perform_load templatesPath_turned hread
  have hload : turnedBook.load.perform .plain turnedWorld = _ := hload
  rw [hload, ← hnil]
  rfl

theorem load_turnedRun :
    (turnedBook.load.perform .plain turnedRun.2).1 = .ok ([turnedNew, turnedOld], []) := by
  have hlinks : ∀ entry ∈ turnedRun.2.store.children ["t"], entry.2.isLink = false := by
    decide +kernel
  have hnames : (Catalog.fileNames (turnedRun.2.store.children ["t"])).mergeSort Text.le =
      ["1-n-new.md", "1-n-old.md"] := by
    have hfiles : Catalog.fileNames (turnedRun.2.store.children ["t"]) =
        ["1-n-new.md", "1-n-old.md"] := by
      decide +kernel
    rw [hfiles]
    cbv
  have hread : (Catalog.readTemplates (Path.ofText "/a/../t").toText
      ["1-n-new.md", "1-n-old.md"]).perform .plain turnedRun.2 =
      (.ok ([turnedNew, turnedOld], []), turnedRun.2) := by decide +kernel
  have hlist : (Disk.list (Path.ofText "/a/../t").toText).perform .plain turnedRun.2 =
      (.ok (turnedRun.2.store.children ["t"]), turnedRun.2) := by decide +kernel
  exact Catalog.load_of_files templatesPath_turned hlist hlinks hnames hread (by decide +kernel)

/--
A path of the templates with double dots behind a directory that is missing leads to an old
directory as soon as that one is made, and the templates in it come up together with the new one.
-/
theorem scaffold_turned_elsewhere :
    turnedWorld.store.IsSound ∧ turnedBook.HoldsNoLinks .plain turnedWorld.store ∧
      (∃ p, turnedRun.1 = .ok p) ∧
      ¬ ∃ before after warnings t,
        (turnedBook.load.perform .plain turnedWorld).1 = .ok (before ++ after, warnings) ∧
        (turnedBook.load.perform .plain turnedRun.2).1 = .ok (before ++ t :: after, warnings) := by
  refine ⟨⟨⟨by decide +kernel, by decide +kernel⟩, by decide +kernel, by decide +kernel⟩,
    turnedBook.holdsNoLinks_of_entries (by decide +kernel),
    ⟨Path.ofText "/a/../t/1-n-new.md", by decide +kernel⟩, ?_⟩
  rintro ⟨before, after, warnings, t, hload, hload'⟩
  rw [load_turned] at hload
  rw [load_turnedRun] at hload'
  have hbefore : before ++ after = [] := (congrArg Prod.fst (Except.ok.inj hload)).symm
  have hafter : before ++ t :: after = [turnedNew, turnedOld] :=
    (congrArg Prod.fst (Except.ok.inj hload')).symm
  obtain ⟨rfl, rfl⟩ := List.append_eq_nil_iff.mp hbefore
  have hlength := congrArg List.length hafter
  simp at hlength

end Turning

end Notebook
end NoteTemplates
