import NoteTemplates.Proofs.Directories
import NoteTemplates.Proofs.QuietOperations

/-!
# What loading sees

How the result of loading a catalog depends on the file system. A file whose name does not
end like that of a template is not seen in a directory that holds no links. A directory that
is not there, one with nothing in it, and one with nothing but directories in it look the
same.
-/

namespace NoteTemplates

open Effect

/-- An effect that ends in the same way from any two worlds with two given stores. -/
def EndsAlike {α : Type} (around : Surroundings) (s t : Store) (a : Effect α) : Prop :=
  ∀ w v : World, w.store = s → v.store = t →
    (a.perform around w).1 = (a.perform around v).1

section EndsAlike

variable {α β : Type} {around : Surroundings} {s t : Store}

theorem endsAlike_of_eq {a : Effect α} {result : Except Failure α}
    (h : ∀ w, (a.perform around w).1 = result) : EndsAlike around s t a :=
  fun w v _ _ => (h w).trans (h v).symm

theorem endsAlike_attempt {a : Effect α} (h : EndsAlike around s t a) :
    EndsAlike around s t (attempt a) := by
  intro w v hw hv
  rw [perform_attempt, perform_attempt, h w v hw hv]

theorem endsAlike_bind {a : Effect α} {f : α → Effect β} (ha : EndsAlike around s t a)
    (hquiet : Quiet a) (hf : ∀ x, EndsAlike around s t (f x)) :
    EndsAlike around s t (a >>= f) := by
  intro w v hw hv
  have hresult := ha w v hw hv
  have hw' := hquiet.store_eq around w
  have hv' := hquiet.store_eq around v
  rw [perform_bind, perform_bind]
  cases hrun : a.perform around w with
  | mk result w' =>
      cases hrun' : a.perform around v with
      | mk result' v' =>
          rw [hrun, hrun'] at hresult
          rw [hrun] at hw'
          rw [hrun'] at hv'
          obtain rfl : result = result' := hresult
          cases result with
          | ok x => exact hf x w' v' (hw'.trans hw) (hv'.trans hv)
          | error f => rfl

theorem endsAlike_read_bind {f : Surroundings → Effect β}
    (h : EndsAlike around s t (f around)) : EndsAlike around s t (read >>= f) := by
  intro w v hw hv
  rw [perform_bind, perform_bind, perform_read, perform_read]
  exact h w v hw hv

theorem endsAlike_settle_bind {x : Except Failure α} {f : α → Effect β}
    (h : ∀ y, x = .ok y → EndsAlike around s t (f y)) :
    EndsAlike around s t (settle x >>= f) := by
  intro w v hw hv
  rw [perform_bind, perform_bind, perform_settle, perform_settle]
  cases x with
  | ok y => exact h y rfl w v hw hv
  | error f => rfl

theorem endsAlike_note (level : Log.Level) (source : Log.Source) (message : Text)
    (values : List (Text × Log.Value)) :
    EndsAlike around s t (note level source message values) :=
  endsAlike_of_eq fun _ => rfl

theorem endsAlike_forM {f : β → Effect PUnit} (hf : ∀ x, EndsAlike around s t (f x))
    (hquiet : ∀ x, Quiet (f x)) : ∀ xs : List β, EndsAlike around s t (xs.forM f)
  | [] => endsAlike_of_eq fun _ => rfl
  | x :: xs => endsAlike_bind (hf x) (hquiet x) fun _ => endsAlike_forM hf hquiet xs

theorem endsAlike_pure (x : α) : EndsAlike around s t (pure x : Effect α) :=
  endsAlike_of_eq fun _ => rfl

theorem endsAlike_throw (f : Failure) : EndsAlike around s t (throw f : Effect α) :=
  endsAlike_of_eq fun _ => rfl

theorem endsAlike_refuse (errno : Errno) (paths : List Text) :
    EndsAlike around s t (refuse errno paths : Effect α) :=
  endsAlike_of_eq fun _ => rfl

theorem endsAlike_readFile {path : Text}
    (h : s.find around.base true path = t.find around.base true path) :
    EndsAlike around s t (Disk.readFile path) := by
  refine endsAlike_bind ?_ (Disk.calm_checkFault _ _).quiet fun _ => ?_
  · intro w v _ _
    rcases Disk.checkFault_cases around .openFile [path] with ⟨f, hf⟩ | hok
    · rw [hf, hf]
    · rw [hok, hok]
  · refine endsAlike_bind ?_ (Disk.calm_checkPath path).quiet fun _ => ?_
    · intro w v _ _
      rw [Disk.perform_checkPath, Disk.perform_checkPath]
      split <;> rfl
    · refine endsAlike_bind ?_ (Disk.quiet_look true path) fun landing => ?_
      · intro w v hw hv
        rw [Disk.perform_look, Disk.perform_look, hw, hv, h]
      · split
        · split
          · exact endsAlike_pure _
          · exact endsAlike_refuse _ _
        · exact endsAlike_refuse _ _
        · exact endsAlike_refuse _ _
        · exact endsAlike_refuse _ _

end EndsAlike

namespace Disk

/-- What a listing of the directory at a path gives in a store. -/
def listing (s : Store) (base : Place) (path : Text) :
    Except Failure (List (Text × Entry)) :=
  match s.find base true path with
  | .ok (.found place .directory) => .ok (s.children place)
  | .ok (.found ..) => .error (.system { errno := .notDirectory, paths := [path] })
  | .ok (.vacant _) => .error (.system { errno := .noEntry, paths := [path] })
  | .error errno => .error (.system { errno, paths := [path] })

/-- A listing fails in every world, or gives what is in the store. -/
theorem list_cases (around : Surroundings) (path : Text) :
    (∃ f, ∀ w, (list path).perform around w = (.error f, w)) ∨
      ∀ w, (list path).perform around w = (listing w.store around.base path, w) := by
  simp only [list, perform_bind, perform_checkPath]
  rcases checkFault_cases around .list [path] with ⟨f, hf⟩ | hok
  · exact Or.inl ⟨f, fun w => by rw [hf]⟩
  · simp only [hok]
    by_cases hnul : '\x00' ∈ path
    · exact Or.inl ⟨.embeddedNull, fun w => by simp only [if_pos hnul]⟩
    · right
      intro w
      simp only [if_neg hnul, perform_look, listing]
      cases w.store.find around.base true path with
      | error errno => rfl
      | ok landing =>
          cases landing with
          | vacant place => rfl
          | found place e => cases e <;> rfl

end Disk

namespace Catalog

variable {around : Surroundings} {s t : Store} {w : World}

/-- The names of the files among entries that end like templates. -/
def fileNames (entries : List (Text × Entry)) : List Text :=
  (entries.filter fun (name, e) => Text.endsWith Filename.suffix name && e.isFile).map (·.1)

/-- Among entries without links, the candidates are the files that end like templates. -/
theorem perform_candidates (directory : Text) {entries : List (Text × Entry)}
    (hlinks : ∀ name target, (name, Entry.link target) ∉ entries) :
    (candidates directory entries).perform around w = (.ok (fileNames entries), w) := by
  induction entries with
  | nil => rfl
  | cons entry entries ih =>
      obtain ⟨name, e⟩ := entry
      have ih' := ih fun name' target hmem => hlinks name' target (by simp [hmem])
      have hfile : (Disk.isFile (Disk.inside directory name) e).perform around w =
          (.ok e.isFile, w) := by
        cases e with
        | file mode bytes => rfl
        | directory => rfl
        | link target => exact absurd List.mem_cons_self (hlinks name target)
      simp only [candidates, fileNames, List.filter_cons]
      by_cases hends : Text.endsWith Filename.suffix name = true
      · simp only [hends, if_true, perform_bind, hfile, Bool.true_and]
        cases e.isFile with
        | true =>
            simp only [if_true, perform_bind, ih', perform_pure]
            rfl
        | false => simpa [fileNames] using ih'
      · simpa [hends, fileNames] using ih'

theorem endsAlike_readTemplate {directory name : Text}
    (h : s.find around.base true (Disk.inside directory name) =
      t.find around.base true (Disk.inside directory name)) :
    EndsAlike around s t (readTemplate directory name) := by
  refine endsAlike_bind (endsAlike_attempt (endsAlike_readFile h))
    (quiet_attempt (Disk.calm_readFile _).quiet) fun result => ?_
  split
  · exact endsAlike_pure _
  · exact endsAlike_throw _
  · split
    · exact endsAlike_pure _
    · exact endsAlike_pure _
    · exact endsAlike_throw _

/-- Files are read alike if their paths lead to the same in both stores. -/
theorem endsAlike_readTemplates {directory : Text} {names : List Text}
    (h : ∀ name ∈ names, s.find around.base true (Disk.inside directory name) =
      t.find around.base true (Disk.inside directory name)) :
    EndsAlike around s t (readTemplates directory names) := by
  induction names with
  | nil => exact endsAlike_pure _
  | cons name names ih =>
      refine endsAlike_bind (endsAlike_readTemplate (h name (by simp)))
        (calm_readTemplate directory name).quiet fun result => ?_
      refine endsAlike_bind (ih fun other hother => h other (by simp [hother]))
        (calm_readTemplates directory names).quiet fun rest => ?_
      dsimp only
      split
      · exact endsAlike_pure _
      · exact endsAlike_pure _

/-- Reading a directory without links is reading the files in it that end like templates. -/
theorem perform_ofDirectory {directory : Text} {entries : List (Text × Entry)}
    (hlist : (Disk.list directory).perform around w = (.ok entries, w))
    (hlinks : ∀ name target, (name, Entry.link target) ∉ entries) :
    (ofDirectory directory).perform around w =
      (readTemplates directory ((fileNames entries).mergeSort Text.le)).perform around w := by
  simp only [ofDirectory, perform_bind, perform_attempt, hlist, perform_candidates _ hlinks]

/-- Nothing that looks like a template is in a directory, and no link, or it is not there. -/
def Bare (s : Store) (base : Place) (directory : Path) : Prop :=
  s.Lacks base directory ∨
    ∃ place, s.find base true directory.toText = .ok (.found place .directory) ∧
      fileNames (s.children place) = [] ∧
      ∀ name target, (name, Entry.link target) ∉ s.children place

/-- A directory with nothing but directories in it is bare. -/
theorem bare_of_directories {base place : Place} {directory : Path}
    (hfound : s.find base true directory.toText = .ok (.found place .directory))
    (hentries : ∀ name e, (name, e) ∈ s.children place → e = .directory) :
    Bare s base directory := by
  refine Or.inr ⟨place, hfound, ?_, ?_⟩
  · rw [fileNames, List.map_eq_nil_iff, List.filter_eq_nil_iff]
    rintro ⟨name, e⟩ hmem
    rw [hentries name e hmem]
    simp [Entry.isFile]
  · intro name target hmem
    cases hentries name _ hmem

/-- A directory is bare if nothing was in it before directories were made. -/
theorem bare_of_fresh {base place : Place} {directory : Path}
    (h : Store.Grows base directory s t)
    (hfound : t.find base true directory.toText = .ok (.found place .directory))
    (hfresh : ∀ name e, (place ++ [name], e) ∉ s.entries) : Bare t base directory :=
  bare_of_directories hfound fun name e hmem =>
    (h.mem_entries (Store.mem_children.mp hmem)).resolve_left (hfresh name e)

/-- There is nothing to read in a bare directory, if it can be listed. -/
theorem ofDirectory_of_bare {directory : Path} (hbare : Bare w.store around.base directory)
    (hlist : ∀ v, (Disk.list directory.toText).perform around v =
      (Disk.listing v.store around.base directory.toText, v)) :
    (ofDirectory directory.toText).perform around w = (.ok ([], []), w) := by
  have hw := hlist w
  rw [Disk.listing] at hw
  rcases hbare with (⟨r, hvacant⟩ | hmissing) | ⟨place, hfound, hnone, hlinks⟩
  · rw [hvacant] at hw
    simp only [ofDirectory, perform_bind, perform_attempt, hw]
    rfl
  · rw [hmissing] at hw
    simp only [ofDirectory, perform_bind, perform_attempt, hw]
    rfl
  · rw [hfound] at hw
    rw [perform_ofDirectory hw hlinks, hnone, List.mergeSort_nil]
    rfl

/-- A directory that cannot be listed anywhere looks alike everywhere. -/
theorem endsAlike_of_list_error {directory : Text} {f : Failure}
    (hf : ∀ w, (Disk.list directory).perform around w = (.error f, w)) :
    EndsAlike around s t (ofDirectory directory) := by
  intro w v _ _
  have hfail (u : World) : (ofDirectory directory).perform around u = _ :=
    perform_bind_ok around u (by rw [perform_attempt, hf]) _
  rw [hfail, hfail]
  cases f with
  | system e =>
      dsimp only
      split <;> rfl
  | _ => rfl

/-- All bare directories look alike. -/
theorem endsAlike_of_bare {directory : Path} (hs : Bare s around.base directory)
    (ht : Bare t around.base directory) :
    EndsAlike around s t (ofDirectory directory.toText) := by
  intro w v hw hv
  rcases Disk.list_cases around directory.toText with ⟨f, hf⟩ | hlist
  · exact endsAlike_of_list_error hf w v hw hv
  · subst hw hv
    rw [ofDirectory_of_bare hs hlist, ofDirectory_of_bare ht hlist]

/-- The walk of a name in a directory that the text of a path leads to. -/
theorem find_inside_of_found {base place : Place} {directory : Path} {n : Path.Step}
    (hn : n.val ≠ "..")
    (hfound : s.find base true directory.toText = .ok (.found place .directory))
    (hlink : ∀ target, s.get? (place ++ [n.val]) ≠ some (.link target)) :
    s.find base true (Disk.inside directory.toText n.val) =
      if Text.byteLength (Disk.inside directory.toText n.val) ≥ Walk.pathLimit then
        .error .nameTooLong
      else if Text.byteLength n.val > Walk.nameLimit then .error .nameTooLong
      else .ok (Landing.ofEntry (place ++ [n.val]) (s.get? (place ++ [n.val]))) := by
  rw [Path.find_toText] at hfound
  split at hfound
  · cases hfound
  · rcases Walk.along_append s Walk.linkLimit (directory.origin base) directory.parts with
      ⟨place', left, hdir, hrest⟩ | ⟨hdir, -⟩
    · rw [hdir] at hfound
      cases hfound
      rw [Path.find_inside, hrest, Walk.along_singleton (n.isProper hn) s left place fun _ => hlink]
    · exact absurd hfound (hdir place)

/--
The second store has all that the first one has, and what is new in a directory is no link
and does not look like a template.
-/
structure Unseen (place : Place) (s t : Store) : Prop where
  keeps : t.Keeps s
  files : fileNames (t.children place) = fileNames (s.children place)
  links : ∀ name target, (name, Entry.link target) ∈ t.children place →
    (name, Entry.link target) ∈ s.children place

section Unseen

variable {place : Place}

theorem Unseen.refl (place : Place) (s : Store) : Unseen place s s :=
  ⟨Store.Keeps.refl s, rfl, fun _ _ h => h⟩

theorem Unseen.trans {u : Store} (h : Unseen place s t) (h' : Unseen place t u) :
    Unseen place s u :=
  ⟨h'.keeps.trans h.keeps, h'.files.trans h.files,
    fun name target hmem => h.links name target (h'.links name target hmem)⟩

/-- One more entry that is no link and, in the directory, does not look like a template. -/
theorem Unseen.insert (h : Unseen place s t) {p : Place} {e : Entry}
    (hvacant : t.get? p = none) (hlink : e.isLink = false)
    (hname : ∀ name, p = place ++ [name] → e.isFile = true →
      Text.endsWith Filename.suffix name = false) :
    Unseen place s (t.insert p e) := by
  have hkeeps := (Store.keeps_insert_of_vacant hvacant e).trans h.keeps
  rcases Store.children_insert_of_vacant hvacant e place with hsame | ⟨name, hp, hmore⟩
  · exact ⟨hkeeps, by rw [hsame, h.files], by rw [hsame]; exact h.links⟩
  · refine ⟨hkeeps, ?_, fun name' target hmem => h.links name' target ?_⟩
    · rw [hmore, ← h.files]
      cases hfile : e.isFile with
      | false => simp [fileNames, hfile]
      | true => simp [fileNames, hname name hp hfile]
    · rw [hmore] at hmem
      rcases List.mem_cons.mp hmem with heq | hmem
      · cases heq
        cases hlink
      · exact hmem

/-- Directories that are added are not seen. -/
theorem unseen_of_grows {base : Place} {p : Path} (h : Store.Grows base p s t)
    (place : Place) : Unseen place s t := by
  induction h with
  | refl => exact Unseen.refl place s
  | made _ _ vacant ih =>
      exact ih.insert (Store.get?_of_find_vacant vacant) rfl fun _ _ hfile => by cases hfile

/-- A bare directory stays bare beside what is not seen. -/
theorem Bare.of_unseen {base : Place} {directory : Path} (hbare : Bare s base directory)
    (hfound : s.find base true directory.toText = .ok (.found place .directory))
    (h : Unseen place s t) : Bare t base directory := by
  rcases hbare with (⟨r, hvacant⟩ | hmissing) | ⟨place', hfound', hnone, hlinks⟩
  · rw [hvacant] at hfound
    cases hfound
  · rw [hmissing] at hfound
    cases hfound
  · rw [hfound'] at hfound
    cases hfound
    refine Or.inr ⟨place, ?_, h.files.trans hnone, fun name target hmem => ?_⟩
    · exact Store.find_found_of_keeps h.keeps.ways (h.keeps place) hfound'
    · exact hlinks name target (h.links name target hmem)

/-- A directory without links looks alike beside what is not seen. -/
theorem endsAlike_of_unseen {directory : Path} (htree : s.IsTree)
    (hfound : s.find around.base true directory.toText = .ok (.found place .directory))
    (hlinks : ∀ name target, (name, Entry.link target) ∉ s.children place)
    (h : Unseen place s t) : EndsAlike around s t (ofDirectory directory.toText) := by
  have hfound' := Store.find_found_of_keeps h.keeps.ways (h.keeps place) hfound
  have hlinks' : ∀ name target, (name, Entry.link target) ∉ t.children place :=
    fun name target hmem => hlinks name target (h.links name target hmem)
  have hread : EndsAlike around s t (readTemplates directory.toText
      ((fileNames (s.children place)).mergeSort Text.le)) := by
    refine endsAlike_readTemplates fun name hmem => ?_
    rw [List.mem_mergeSort, fileNames, List.mem_map] at hmem
    obtain ⟨⟨name, e⟩, hmem, rfl⟩ := hmem
    have hentry := Store.mem_children.mp (List.mem_filter.mp hmem).1
    have hisName := htree.isName _ hentry name (by simp)
    obtain ⟨f, hf⟩ := Option.ne_none_iff_exists'.mp (Store.get?_ne_none_of_mem hentry)
    have hf' := h.keeps _ f hf
    have hlink : ∀ target, f ≠ .link target := by
      rintro target rfl
      exact hlinks name target (Store.mem_children.mpr (Store.mem_entries_of_get? hf))
    have hs := find_inside_of_found (n := ⟨name, hisName.1⟩) hisName.2 hfound
      (by rw [hf]; simpa using hlink)
    have ht := find_inside_of_found (n := ⟨name, hisName.1⟩) hisName.2 hfound'
      (by rw [hf']; simpa using hlink)
    rw [hs, ht, hf, hf']
  intro w v hw hv
  rcases Disk.list_cases around directory.toText with ⟨f, hf⟩ | hlist
  · exact endsAlike_of_list_error hf w v hw hv
  · have hwlist := hlist w
    have hvlist := hlist v
    rw [Disk.listing, hw, hfound] at hwlist
    rw [Disk.listing, hv, hfound'] at hvlist
    rw [perform_ofDirectory hwlist hlinks, perform_ofDirectory hvlist hlinks', h.files]
    exact hread w v hw hv

end Unseen

/-- Loading ends alike where reading the directory of the templates does. -/
theorem endsAlike_load {settings : Settings}
    (h : ∀ directory,
      settings.templatesPath around.environment around.directory = .ok directory →
        EndsAlike around s t (ofDirectory directory.toText)) :
    EndsAlike around s t (load settings) := by
  refine endsAlike_read_bind (endsAlike_settle_bind fun directory hdirectory => ?_)
  refine endsAlike_bind (h directory hdirectory) (calm_ofDirectory _).quiet fun found => ?_
  refine endsAlike_bind (endsAlike_forM (fun _ => endsAlike_note _ _ _ _)
    (fun _ => quiet_note _ _ _ _) _) (quiet_forM (fun _ => quiet_note _ _ _ _) _) fun _ => ?_
  exact endsAlike_bind (endsAlike_note _ _ _ _) (quiet_note _ _ _ _) fun _ => endsAlike_pure _

end Catalog

end NoteTemplates
