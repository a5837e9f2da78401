import NoteTemplates.Proofs.Footprints
import NoteTemplates.Proofs.Loading
import NoteTemplates.Proofs.Parsing

/-!
# What reading a directory gives

The result of reading a directory accounts for its entries. Every entry that ends like a
template and is a file when links are followed gives one item, a template or a failure, and
the items stand in the order of the names. The only thing that can go wrong for the whole
directory is an entry that cannot be examined: a link whose walk is refused.
-/

namespace NoteTemplates

open Effect

/-- What can be in a file system: a tree with one entry at a place and no NUL in a name. -/
structure Store.IsSound (s : Store) : Prop where
  tree : s.IsTree
  single : (s.entries.map (·.1)).Nodup
  noNul : ∀ entry ∈ s.entries, ∀ name ∈ entry.1, '\x00' ∉ name

namespace Store

variable {s : Store} {place : Place} {name : Text} {e : Entry}

theorem IsSound.get?_eq_some (h : s.IsSound) {p : Place} :
    s.get? p = some e ↔ (p, e) ∈ s.entries := by
  refine ⟨mem_entries_of_get?, fun hmem => ?_⟩
  obtain ⟨f, hf⟩ := Option.ne_none_iff_exists'.mp (get?_ne_none_of_mem hmem)
  have hsame := List.inj_on_of_nodup_map h.single hmem (mem_entries_of_get? hf) rfl
  cases hsame
  exact hf

/-- What is in a directory of a file system is what can be read there. -/
theorem IsSound.mem_children (h : s.IsSound) :
    (name, e) ∈ s.children place ↔ s.get? (place ++ [name]) = some e :=
  Store.mem_children.trans h.get?_eq_some.symm

/-- The names in a directory are those of some of the places. -/
theorem sublist_children (s : Store) (place : Place) :
    List.Sublist (((s.children place).map (·.1)).map fun name => place ++ [name])
      (s.entries.map (·.1)) := by
  obtain ⟨entries⟩ := s
  induction entries with
  | nil => exact List.Sublist.slnil
  | cons entry entries ih =>
      obtain ⟨q, e⟩ := entry
      rw [children, List.filterMap_cons, ← children, List.map_cons]
      rcases List.eq_nil_or_concat q with rfl | ⟨r, name, rfl⟩
      · exact ih.cons _
      · simp only [List.concat_eq_append, List.getLast?_concat, List.dropLast_concat]
        by_cases hr : r = place
        · subst hr
          simpa using ih.cons_cons (r ++ [name])
        · simpa [hr] using ih.cons _

theorem IsSound.nodup_children (h : s.IsSound) (place : Place) :
    ((s.children place).map (·.1)).Nodup :=
  (h.single.sublist (sublist_children s place)).of_map _

/-- The names in a directory of a file system. -/
theorem IsSound.name_of_mem_children (h : s.IsSound) (hmem : (name, e) ∈ s.children place) :
    Path.isName name = true ∧ name ≠ ".." ∧ '\x00' ∉ name := by
  have hentry := Store.mem_children.mp hmem
  have hname := h.tree.isName _ hentry name (by simp)
  exact ⟨hname.1, hname.2, h.noNul _ hentry name (by simp)⟩

end Store

/-- The number in the name of a file can be read. -/
theorem Filename.length_beforeDash_le {filename : Text}
    (h : Text.byteLength filename ≤ Walk.nameLimit) :
    (beforeDash filename).length ≤ Text.digitLimit := by
  have hbytes := Text.length_le_byteLength filename
  have hdash := (List.takeWhile_sublist (p := (· ≠ '-')) (l := filename)).length_le
  have hlimit : Walk.nameLimit ≤ Text.digitLimit := by decide
  rw [beforeDash]
  omega

theorem Walk.start_cons_of_ne (base : Place) {c : Char} (s : Text) (h : c ≠ '/') :
    Walk.start base (c :: s) = base := by
  unfold Walk.start
  split
  · rename_i heq
    exact absurd (List.cons.inj heq).1 h
  · rfl

namespace Disk

variable {directory name : Text}

/-- The proper parts of the text of a directory. -/
def partsOf (directory : Text) : List Text :=
  (Text.splitOn '/' directory).filter fun part => !part.isEmpty

/-- The text of a name in a directory is the name after nothing or after a slash. -/
theorem splitOn_inside (directory : Text) (hname : '/' ∉ name) :
    ∃ parts, Text.splitOn '/' (inside directory name) = parts ++ [name] ∧
      (parts.filter fun part => !part.isEmpty) = partsOf directory := by
  rw [inside, partsOf]
  by_cases hempty : directory = []
  · subst hempty
    exact ⟨[], by simpa using Text.splitOn_of_notMem hname, rfl⟩
  · have hne : directory.isEmpty = false := by simpa using hempty
    by_cases hslash : directory.getLast? = some '/'
    · obtain ⟨front, rfl⟩ : ∃ front, directory = front ++ ['/'] :=
        ⟨directory.dropLast, (List.dropLast_append_getLast? '/' hslash).symm⟩
      refine ⟨Text.splitOn '/' front, ?_, ?_⟩
      · rw [if_pos (by simp), List.append_assoc, List.singleton_append, Text.splitOn_append_sep,
          Text.splitOn_of_notMem hname]
      · rw [Text.splitOn_append_sep]
        simp [Text.splitOn]
    · refine ⟨Text.splitOn '/' directory, ?_, rfl⟩
      rw [if_neg (by simp [hne, hslash])]
      show Text.splitOn '/' (directory ++ ['/'] ++ name) = _
      rw [List.append_assoc, List.singleton_append, Text.splitOn_append_sep,
        Text.splitOn_of_notMem hname]

/-- The last name of the path of a name in a directory is that name. -/
theorem name_ofText_inside (directory : Text) (hname : Path.isName name = true) :
    (Path.ofText (inside directory name)).name = name := by
  obtain ⟨parts, hsplit, -⟩ := splitOn_inside directory (Path.Step.slash_notMem ⟨name, hname⟩)
  simp [Path.name, Path.parts, Path.ofText, hsplit, Path.Step.ofPart?, hname]

/-- The names of a name in a directory are the parts of the directory and the name. -/
theorem names_inside (directory : Text) (hname : Path.isName name = true) :
    Walk.names (inside directory name) = partsOf directory ++ [name] := by
  let n : Path.Step := ⟨name, hname⟩
  obtain ⟨parts, hsplit, hparts⟩ := splitOn_inside directory n.slash_notMem
  have hne : name ≠ [] := n.ne_nil
  have hlast : (inside directory name).getLast? ≠ some '/' := by
    have hend : (inside directory name).getLast? = name.getLast? := by
      rw [inside]
      split <;> exact Text.getLast?_append_of_ne_nil hne _
    rw [hend]
    exact fun hslash => n.slash_notMem (List.mem_of_getLast? hslash)
  have hkeep : name.isEmpty = false := by simpa using hne
  rw [Walk.names, if_neg hlast, show Text.splitOn '/' (inside directory name) = _ from hsplit,
    List.filter_append, hparts]
  simp [n, hkeep]

theorem start_inside (base : Place) (name : Text) (hdirectory : directory ≠ []) :
    Walk.start base (inside directory name) = Walk.start base directory := by
  cases directory with
  | nil => exact absurd rfl hdirectory
  | cons c directory =>
      rw [inside]
      by_cases hc : c = '/'
      · subst hc
        split <;> rfl
      · split <;> simp [Walk.start_cons_of_ne _ _ hc]

section Inside

variable {s : Store} {base place : Place}

theorem nul_notMem_inside (hdirectory : '\x00' ∉ directory) (hname : '\x00' ∉ name) :
    '\x00' ∉ inside directory name := by
  have hslash : '\x00' ∉ (("/" : String) : Text) := by decide
  rw [inside]
  split <;> simp only [List.mem_append, not_or] <;> tauto

theorem ne_nil_of_find {follow : Bool} {landing : Landing}
    (h : s.find base follow directory = .ok landing) : directory ≠ [] := by
  rintro rfl
  cases h

/-- The parts of a directory are walked to it. -/
theorem along_partsOf (h : s.find base true directory = .ok (.found place .directory)) :
    Walk.along s true Walk.linkLimit (Walk.start base directory) (partsOf directory) =
      .ok (.found place .directory) := by
  have hwalk := Store.find_eq_along h
  rw [hwalk, Walk.names] at h
  split at h
  · rcases Walk.along_append s Walk.linkLimit (Walk.start base directory)
      (partsOf directory) with ⟨here, left, hdir, hrest⟩ | ⟨-, herr⟩
    · have hlast := (hrest true ['.'] []).symm.trans h
      have hdot : Walk.along s true left here [['.']] = Walk.along s true left here [] :=
        Walk.along_dot s true left here []
      rw [hdot, Walk.along_nil] at hlast
      rw [hdir, hlast]
    · obtain ⟨errno, herr⟩ := herr true ['.'] []
      exact absurd (herr.symm.trans h) (by simp)
  · exact h

/-- Walking a name in a directory is walking the parts of the directory and the name. -/
theorem find_inside_eq (s : Store) (base : Place) (hdirectory : directory ≠ [])
    (hname : Path.isName name = true) :
    s.find base true (inside directory name) =
      if Text.byteLength (inside directory name) ≥ Walk.pathLimit then .error .nameTooLong
      else Walk.along s true Walk.linkLimit (Walk.start base directory)
        (partsOf directory ++ [name]) := by
  have hne : (inside directory name).isEmpty = false := by
    rw [inside]
    split <;> simp [hdirectory]
  rw [Store.find, hne, start_inside base name hdirectory, names_inside directory hname]
  simp

/-- A name that is too long leads nowhere. -/
theorem byteLength_le_of_find_inside {landing : Landing} (hname : Path.isName name = true)
    (hup : name ≠ "..") (h : s.find base true (inside directory name) = .ok landing) :
    Text.byteLength name ≤ Walk.nameLimit := by
  have hproper : Walk.IsProper name := Path.Step.isProper ⟨name, hname⟩ hup
  have hwalk := Store.find_eq_along h
  rw [hwalk, names_inside directory hname] at h
  rcases Walk.along_append s Walk.linkLimit (Walk.start base (inside directory name))
    (partsOf directory) with ⟨here, left, -, hrest⟩ | ⟨-, herr⟩
  · rw [hrest, Walk.along_proper hproper] at h
    by_contra hlong
    rw [if_pos (Nat.lt_of_not_le hlong)] at h
    cases h
  · obtain ⟨errno, herr⟩ := herr true name []
    rw [herr] at h
    cases h

end Inside

section Outcomes

variable {around : Surroundings} {w : World} {path : Text}

/-- An entry that is a file, or a link that leads to one. -/
def IsRegular (s : Store) (base : Place) (path : Text) (e : Entry) : Prop :=
  e.isFile = true ∨
    e.isLink = true ∧ ∃ place mode bytes,
      s.find base true path = .ok (.found place (.file mode bytes))

/-- An entry that is no link, or a link whose walk ends or comes to nothing. -/
def CanExamine (s : Store) (base : Place) (path : Text) (e : Entry) : Prop :=
  e.isLink = true → ∀ errno, s.find base true path = .error errno → errno = .noEntry

/-- What is no link can be examined. -/
theorem canExamine_of_isLink_eq_false {s : Store} {base : Place} {path : Text} {e : Entry}
    (h : e.isLink = false) : CanExamine s base path e :=
  fun hlink => absurd (h.symm.trans hlink) Bool.false_ne_true

/-- An entry is examined without doubt, or is a link whose walk is refused. -/
theorem isFile_cases (around : Surroundings) (w : World) (path : Text) (e : Entry) :
    (CanExamine w.store around.base path e ∧
        ∃ regular, (isFile path e).perform around w = (.ok regular, w) ∧
          (regular = true ↔ IsRegular w.store around.base path e)) ∨
      ∃ target errno, e = .link target ∧
        w.store.find around.base true path = .error errno ∧ errno ≠ .noEntry ∧
        (isFile path e).perform around w = (.error (.system { errno, paths := [path] }), w) := by
  cases e with
  | file mode bytes =>
      exact Or.inl ⟨canExamine_of_isLink_eq_false rfl, true, rfl,
        by simp [IsRegular, Entry.isFile]⟩
  | directory =>
      exact Or.inl ⟨canExamine_of_isLink_eq_false rfl, false, rfl,
        by simp [IsRegular, Entry.isFile, Entry.isLink]⟩
  | link target =>
      simp only [isFile, perform_bind, perform_look, CanExamine, IsRegular, Entry.isFile,
        Entry.isLink]
      cases hfind : w.store.find around.base true path with
      | error errno =>
          by_cases hnone : errno = .noEntry
          · subst hnone
            exact Or.inl ⟨by simp, false, rfl, by simp⟩
          · refine Or.inr ⟨target, errno, rfl, rfl, hnone, ?_⟩
            simp only [if_neg hnone]
            rfl
      | ok landing =>
          left
          refine ⟨by simp, ?_⟩
          cases landing with
          | vacant place => exact ⟨false, rfl, by simp⟩
          | found place f =>
              cases f with
              | file mode bytes => exact ⟨true, rfl, by simp⟩
              | directory => exact ⟨false, rfl, by simp⟩
              | link other => exact ⟨false, rfl, by simp⟩

/-- A call that is made to fail is refused by the file system. -/
theorem checkFault_refused (around : Surroundings) (call : Call) (paths : List Text) :
    (∃ e, ∀ w, (checkFault call paths).perform around w = (.error (.system e), w)) ∨
      ∀ w, (checkFault call paths).perform around w = (.ok (), w) := by
  simp only [checkFault, perform_bind, perform_read]
  split
  · exact Or.inl ⟨_, fun _ => rfl⟩
  · exact Or.inr fun _ => rfl

/-- Reading a file is refused by the file system, or gives the bytes of the file. -/
theorem readFile_cases (around : Surroundings) (w : World) (hnul : '\x00' ∉ path) :
    (∃ e, (readFile path).perform around w = (.error (.system e), w)) ∨
      ∃ place mode bytes,
        w.store.find around.base true path = .ok (.found place (.file mode bytes)) ∧
        (readFile path).perform around w = (.ok bytes, w) := by
  rw [readFile, perform_bind]
  rcases checkFault_refused around .openFile [path] with ⟨e, he⟩ | hok
  · exact Or.inl ⟨e, by rw [he]⟩
  · rw [hok]
    simp only [contents, perform_bind, perform_checkPath, if_neg hnul, perform_look]
    cases hfind : w.store.find around.base true path with
    | error errno => exact Or.inl ⟨_, rfl⟩
    | ok landing =>
        cases landing with
        | vacant place => exact Or.inl ⟨_, rfl⟩
        | found place e =>
            cases e with
            | directory => exact Or.inl ⟨_, rfl⟩
            | link target => exact Or.inl ⟨_, rfl⟩
            | file mode bytes =>
                dsimp only
                split
                · exact Or.inr ⟨place, mode, bytes, rfl, rfl⟩
                · exact Or.inl ⟨_, rfl⟩

/-- What can be listed is a directory, and any other world is listed in the same way. -/
theorem list_ok {entries : List (Text × Entry)}
    (h : ((list path).perform around w).1 = .ok entries) :
    '\x00' ∉ path ∧
      ∀ v, (list path).perform around v = (listing v.store around.base path, v) := by
  have hnul : '\x00' ∉ path := by
    intro hnul
    rw [list, perform_bind] at h
    rcases checkFault_cases around .list [path] with ⟨f, hf⟩ | hok
    · rw [hf] at h
      cases h
    · rw [hok] at h
      simp only [perform_bind, perform_checkPath, if_pos hnul] at h
      cases h
  refine ⟨hnul, ?_⟩
  rcases list_cases around path with ⟨f, hf⟩ | hlist
  · rw [hf] at h
    cases h
  · exact hlist

end Outcomes

end Disk

namespace Catalog

variable {around : Surroundings} {w : World} {s : Store} {directory name : Text}

/-- The templates and the failures among items, each in their order. -/
def sift : List (Except Failure Template) → List Template × List Failure
  | [] => ([], [])
  | .ok t :: items => (t :: (sift items).1, (sift items).2)
  | .error f :: items => ((sift items).1, f :: (sift items).2)

/-- The item that a file of a directory gives, by what stands in the way of a template. -/
inductive Gives (around : Surroundings) (s : Store) (directory name : Text) :
    Except Failure Template → Prop
  | template {t : Template} {place : Place} {mode : Nat} {bytes : Bytes}
      (found : s.find around.base true (Disk.inside directory name) =
        .ok (.found place (.file mode bytes)))
      (decoded : Utf8.decode bytes = .ok t.body)
      (parsed : Template.parse (Disk.inside directory name) t.body = .ok t)
      (named : t.filename = name) : Gives around s directory name (.ok t)
  | unreadable {e : SystemError}
      (refused : ((Disk.readFile (Disk.inside directory name)).perform around
        { store := s }).1 = .error (.system e)) :
      Gives around s directory name (.error (.unreadable name (reason e)))
  | undecodable {place : Place} {mode : Nat} {bytes : Bytes} {fault : Utf8.Fault}
      (found : s.find around.base true (Disk.inside directory name) =
        .ok (.found place (.file mode bytes)))
      (undecoded : Utf8.decode bytes = .error fault) :
      Gives around s directory name (.error (.template
        { kind := .parseFailed, detail := fault.message, template := some name }))
  | unparsed {place : Place} {mode : Nat} {bytes : Bytes} {content : Text} {e : TemplateError}
      (found : s.find around.base true (Disk.inside directory name) =
        .ok (.found place (.file mode bytes)))
      (decoded : Utf8.decode bytes = .ok content)
      (refused : Template.parse (Disk.inside directory name) content = .error (.template e)) :
      Gives around s directory name (.error (.template e))

/-- Reading a file ends with one item, whatever is in it. -/
theorem readTemplate_cases (around : Surroundings) (w : World)
    (hname : Path.isName name = true) (hup : name ≠ "..")
    (hnul : '\x00' ∉ Disk.inside directory name) :
    ∃ item, Gives around w.store directory name item ∧
      (readTemplate directory name).perform around w = (.ok item, w) := by
  rw [readTemplate, perform_bind, perform_attempt]
  rcases Disk.readFile_cases around w hnul with ⟨e, he⟩ | ⟨place, mode, bytes, hfound, hread⟩
  · have he' : ((Disk.readFile (Disk.inside directory name)).perform around
        { store := w.store }).1 = .error (.system e) := by
      rw [endsAlike_readFile rfl { store := w.store } w rfl rfl, he]
    rw [he]
    exact ⟨_, .unreadable he', rfl⟩
  · rw [hread]
    dsimp only
    rw [templateIn]
    cases hdecoded : Utf8.decode bytes with
    | error fault => exact ⟨_, .undecodable hfound hdecoded, rfl⟩
    | ok content =>
        dsimp only
        have hlast := Disk.name_ofText_inside directory hname
        cases hparsed : Template.parse (Disk.inside directory name) content with
        | ok t =>
            obtain ⟨parts, target, declared, -, -, -, rfl⟩ := Template.parse_eq_ok.mp hparsed
            exact ⟨_, .template hfound hdecoded hparsed hlast, rfl⟩
        | error f =>
            have hshort : (Filename.beforeDash
                (Path.ofText (Disk.inside directory name)).name).length ≤ Text.digitLimit := by
              rw [hlast]
              exact Filename.length_beforeDash_le
                (Disk.byteLength_le_of_find_inside hname hup hfound)
            obtain ⟨e, rfl⟩ := Template.exists_of_parse_eq_error hshort hparsed
            exact ⟨_, .unparsed hfound hdecoded hparsed, rfl⟩

/-- The item that a file of a directory gives. -/
def item (around : Surroundings) (s : Store) (directory name : Text) :
    Except Failure Template :=
  match ((readTemplate directory name).perform around { store := s }).1 with
  | .ok item => item
  | .error f => .error f

/-- Reading a file of a directory gives its item and leaves the world alone. -/
theorem readTemplate_eq (around : Surroundings) (w : World)
    (hname : Path.isName name = true) (hup : name ≠ "..")
    (hnul : '\x00' ∉ Disk.inside directory name) :
    Gives around w.store directory name (item around w.store directory name) ∧
      (readTemplate directory name).perform around w =
        (.ok (item around w.store directory name), w) := by
  obtain ⟨result, hgives, hrun⟩ := readTemplate_cases around w hname hup hnul
  have halike : EndsAlike around w.store w.store (readTemplate directory name) :=
    endsAlike_readTemplate rfl
  have hitem : item around w.store directory name = result := by
    rw [item, halike { store := w.store } w rfl rfl, hrun]
  rw [hitem]
  exact ⟨hgives, hrun⟩

/-- The same file gives the same item in any file system. -/
theorem item_congr {t : Store}
    (h : s.find around.base true (Disk.inside directory name) =
      t.find around.base true (Disk.inside directory name)) :
    item around s directory name = item around t directory name := by
  rw [item, item, endsAlike_readTemplate h { store := s } { store := t } rfl rfl]

/-- An entry of a directory that a catalog is made from. -/
def IsCandidate (s : Store) (base : Place) (directory : Text) (entries : List (Text × Entry))
    (name : Text) : Prop :=
  Text.endsWith Filename.suffix name = true ∧
    ∃ e, (name, e) ∈ entries ∧ Disk.IsRegular s base (Disk.inside directory name) e

/-- All entries of a directory that end like templates can be examined. -/
def CanExamineAll (s : Store) (base : Place) (directory : Text)
    (entries : List (Text × Entry)) : Prop :=
  ∀ name e, (name, e) ∈ entries → Text.endsWith Filename.suffix name = true →
    Disk.CanExamine s base (Disk.inside directory name) e

/-- An entry of a directory that ends like a template and cannot be examined. -/
def IsRefused (s : Store) (base : Place) (directory : Text) (entries : List (Text × Entry))
    (name : Text) (errno : Errno) : Prop :=
  Text.endsWith Filename.suffix name = true ∧ errno ≠ .noEntry ∧
    s.find base true (Disk.inside directory name) = .error errno ∧
    ∃ target, (name, Entry.link target) ∈ entries

section Candidates

variable {base : Place} {other : Text} {e : Entry} {entries : List (Text × Entry)} {errno : Errno}

theorem isCandidate_cons :
    IsCandidate s base directory ((name, e) :: entries) other ↔
      (other = name ∧ Text.endsWith Filename.suffix name = true ∧
        Disk.IsRegular s base (Disk.inside directory name) e) ∨
      IsCandidate s base directory entries other := by
  constructor
  · rintro ⟨hends, f, hmem, hregular⟩
    rcases List.mem_cons.mp hmem with heq | hmem
    · cases heq
      exact Or.inl ⟨rfl, hends, hregular⟩
    · exact Or.inr ⟨hends, f, hmem, hregular⟩
  · rintro (⟨rfl, hends, hregular⟩ | ⟨hends, f, hmem, hregular⟩)
    · exact ⟨hends, e, List.mem_cons_self, hregular⟩
    · exact ⟨hends, f, List.mem_cons_of_mem _ hmem, hregular⟩

theorem canExamineAll_cons :
    CanExamineAll s base directory ((name, e) :: entries) ↔
      (Text.endsWith Filename.suffix name = true →
        Disk.CanExamine s base (Disk.inside directory name) e) ∧
      CanExamineAll s base directory entries := by
  constructor
  · intro h
    exact ⟨h name e List.mem_cons_self, fun other f hmem => h other f (List.mem_cons_of_mem _ hmem)⟩
  · rintro ⟨hname, h⟩ other f hmem
    rcases List.mem_cons.mp hmem with heq | hmem
    · cases heq
      exact hname
    · exact h other f hmem

theorem IsRefused.cons (h : IsRefused s base directory entries other errno)
    (entry : Text × Entry) : IsRefused s base directory (entry :: entries) other errno := by
  obtain ⟨hends, hne, hfind, target, hmem⟩ := h
  exact ⟨hends, hne, hfind, target, List.mem_cons_of_mem _ hmem⟩

/-- An entry that cannot be examined is one of those that end like templates. -/
theorem IsRefused.not_canExamineAll (h : IsRefused s base directory entries other errno) :
    ¬ CanExamineAll s base directory entries := by
  obtain ⟨hends, hne, hfind, target, hmem⟩ := h
  exact fun hall => hne (hall other _ hmem hends rfl errno hfind)

/-- The candidates are found among the entries, or one of these cannot be examined. -/
theorem candidates_cases (around : Surroundings) (w : World) (directory : Text)
    (entries : List (Text × Entry)) :
    (CanExamineAll w.store around.base directory entries ∧
        ∃ names, (candidates directory entries).perform around w = (.ok names, w) ∧
          List.Sublist names (entries.map (·.1)) ∧
          ∀ name, name ∈ names ↔ IsCandidate w.store around.base directory entries name) ∨
      ∃ name errno, IsRefused w.store around.base directory entries name errno ∧
        (candidates directory entries).perform around w =
          (.error (.system { errno, paths := [Disk.inside directory name] }), w) := by
  induction entries with
  | nil => exact Or.inl ⟨nofun, [], rfl, List.Sublist.slnil, by simp [IsCandidate]⟩
  | cons entry entries ih =>
      obtain ⟨name, e⟩ := entry
      simp only [candidates]
      by_cases hends : Text.endsWith Filename.suffix name = true
      case neg =>
        simp only [hends, Bool.false_eq_true, if_false]
        rcases ih with ⟨hall, names, hrun, hsub, hmem⟩ | ⟨other, errno, hrefused, hrun⟩
        · refine Or.inl ⟨canExamineAll_cons.mpr ⟨by simp [hends], hall⟩, names, hrun,
            hsub.cons _, fun other => ?_⟩
          rw [hmem, isCandidate_cons]
          simp [hends]
        · exact Or.inr ⟨other, errno, hrefused.cons _, hrun⟩
      simp only [hends, if_true, perform_bind]
      rcases Disk.isFile_cases around w (Disk.inside directory name) e with
        ⟨hexamine, regular, hregular, hiff⟩ | ⟨target, errno, rfl, hfind, hne, hregular⟩
      · rw [hregular]
        rcases ih with ⟨hall, names, hrun, hsub, hmem⟩ | ⟨other, errno, hrefused, hrun⟩
        · left
          refine ⟨canExamineAll_cons.mpr ⟨fun _ => hexamine, hall⟩, ?_⟩
          cases regular with
          | true =>
              refine ⟨name :: names, ?_, hsub.cons_cons name, fun other => ?_⟩
              · simp only [if_true, perform_bind, hrun, perform_pure]
              · rw [List.mem_cons, hmem, isCandidate_cons]
                simp [hends, hiff.mp rfl]
          | false =>
              refine ⟨names, hrun, hsub.cons _, fun other => ?_⟩
              rw [hmem, isCandidate_cons]
              simp [← hiff]
        · refine Or.inr ⟨other, errno, hrefused.cons _, ?_⟩
          cases regular with
          | true => simp only [if_true, perform_bind, hrun]
          | false => exact hrun
      · exact Or.inr ⟨name, errno, ⟨hends, hne, hfind, target, List.mem_cons_self⟩,
          by rw [hregular]⟩

end Candidates

/-- Reading files gives their items in turn. -/
theorem readTemplates_eq {names : List Text}
    (h : ∀ name ∈ names, Path.isName name = true ∧ name ≠ ".." ∧
      '\x00' ∉ Disk.inside directory name) :
    (readTemplates directory names).perform around w =
      (.ok (sift (names.map (item around w.store directory))), w) := by
  induction names with
  | nil => rfl
  | cons name names ih =>
      obtain ⟨hname, hup, hnul⟩ := h name List.mem_cons_self
      have hfirst := (readTemplate_eq around w hname hup hnul).2
      have hrest := ih fun other hother => h other (List.mem_cons_of_mem _ hother)
      simp only [readTemplates, perform_bind, hfirst, hrest, List.map_cons]
      cases item around w.store directory name with
      | ok t => rfl
      | error f => rfl

/--
The result of reading a directory accounts for its entries: each candidate gives one item, and
the items are in the order of the names.
-/
structure Accounts (around : Surroundings) (s : Store) (directory : Text)
    (entries : List (Text × Entry)) (names : List Text)
    (result : List Template × List Failure) : Prop where
  ordered : names.Pairwise fun name other => Text.le name other = true ∧ name ≠ other
  candidates : ∀ name, name ∈ names ↔ IsCandidate s around.base directory entries name
  gives : ∀ name ∈ names, Gives around s directory name (item around s directory name)
  result_eq : result = sift (names.map (item around s directory))

/-- Reading a directory accounts for its entries, or comes upon one it cannot examine. -/
theorem ofDirectory_cases {place : Place} (hsound : w.store.IsSound)
    (hnul : '\x00' ∉ directory)
    (hlist : (Disk.list directory).perform around w = (.ok (w.store.children place), w)) :
    (CanExamineAll w.store around.base directory (w.store.children place) ∧
        ∃ names result,
          Accounts around w.store directory (w.store.children place) names result ∧
          (ofDirectory directory).perform around w = (.ok result, w)) ∨
      ∃ name errno,
        IsRefused w.store around.base directory (w.store.children place) name errno ∧
        (ofDirectory directory).perform around w =
          (.error (.system { errno, paths := [Disk.inside directory name] }), w) := by
  simp only [ofDirectory, perform_bind, perform_attempt, hlist]
  rcases candidates_cases around w directory (w.store.children place) with
    ⟨hall, names, hrun, hsub, hmem⟩ | ⟨name, errno, hrefused, hrun⟩
  · have hperm := List.mergeSort_perm names Text.le
    have hproper : ∀ name ∈ names.mergeSort Text.le, Path.isName name = true ∧ name ≠ ".." ∧
        '\x00' ∉ Disk.inside directory name := by
      intro name hname
      obtain ⟨-, e, hentry, -⟩ := (hmem name).mp (hperm.mem_iff.mp hname)
      obtain ⟨hisName, hup, hnulName⟩ := hsound.name_of_mem_children hentry
      exact ⟨hisName, hup, Disk.nul_notMem_inside hnul hnulName⟩
    have hnodup : (names.mergeSort Text.le).Nodup :=
      hperm.nodup_iff.mpr ((hsound.nodup_children place).sublist hsub)
    have hordered := (Text.pairwise_mergeSort_le names).and hnodup
    refine Or.inl ⟨hall, names.mergeSort Text.le, _,
      ⟨hordered, fun name => ?_, fun name hname => ?_, rfl⟩, ?_⟩
    · rw [hperm.mem_iff, hmem]
    · obtain ⟨hisName, hup, hnulName⟩ := hproper name hname
      exact (readTemplate_eq around w hisName hup hnulName).1
    · rw [hrun]
      exact readTemplates_eq hproper
  · exact Or.inr ⟨name, errno, hrefused, by rw [hrun]⟩

end Catalog

end NoteTemplates
