import NoteTemplates.Proofs.AllOrNothing
import NoteTemplates.Proofs.Loading
import NoteTemplates.Proofs.Texts

/-!
# Interruption

Writing a note may be cut off after any of its calls to the file system. What holds of all
the states that can be left behind then is this.

* Every file is as it was, or is a temporary file beside the target, or is the whole note.
* The target leads to what it led to before, or to the whole note, if and only if the
  directories that are made do not turn its way elsewhere.
* A catalog is loaded as before, or the note was written: a temporary file is hidden from
  loading by its name, and a new directory by what it is.

A way with double dots behind a directory that is missing is turned elsewhere when that
directory is made.
-/

namespace NoteTemplates

open Effect

namespace Materialization

section Names

/-- Whether a text can end a temporary name: eight small letters, digits or low lines. -/
def isEnding (suffix : Text) : Bool :=
  suffix.length = 8 && suffix.all fun c => c.isLower || c.isDigit || c = '_'

variable {suffix : Text}

theorem notMem_of_isEnding (h : isEnding suffix = true) {c : Char}
    (hc : (c.isLower || c.isDigit || c = '_') = false) : c ∉ suffix := by
  simp only [isEnding, Bool.and_eq_true, List.all_eq_true] at h
  intro hmem
  have hletter := h.2 c hmem
  rw [hc] at hletter
  cases hletter

/-- The name of a temporary file never ends like that of a template. -/
theorem endsWith_temporaryName (h : isEnding suffix = true) (name : Text) :
    Text.endsWith Filename.suffix (temporaryName name ++ suffix) = false := by
  have hdot : '.' ∉ suffix := notMem_of_isEnding h (by decide)
  simp only [isEnding, Bool.and_eq_true, decide_eq_true_eq] at h
  rw [Bool.eq_false_iff]
  intro hends
  have hlength : Filename.suffix.length ≤ suffix.length := by
    rw [h.1]
    decide
  have hlast : Filename.suffix <:+ suffix :=
    List.suffix_of_suffix_length_le (Text.endsWith_iff.mp hends)
      (List.suffix_append _ suffix) hlength
  exact hdot (hlast.mem (by decide))

/-- The name of a temporary file is longer than that of its target. -/
theorem temporaryName_ne (name suffix : Text) : temporaryName name ++ suffix ≠ name := by
  intro heq
  have hlength := congrArg List.length heq
  simp [temporaryName] at hlength
  omega

/-- The name of a path has no slash in it. -/
theorem slash_notMem_name (p : Path) : '/' ∉ p.name := by
  rcases p.steps_eq_nil_or with hnil | ⟨n, hsteps⟩
  · simp [Path.name, Path.parts, hnil]
  · rw [Path.name_eq_of_steps_eq hsteps]
    exact n.slash_notMem

/-- The name of a temporary file is one to which a path can lead. -/
theorem isName_temporaryName (h : isEnding suffix = true) {name : Text} (hname : '/' ∉ name) :
    Path.isName (temporaryName name ++ suffix) = true := by
  have hslash : '/' ∉ suffix := notMem_of_isEnding h (by decide)
  have htemporary : '/' ∉ temporaryName name := by simpa [temporaryName] using hname
  have hne : temporaryName name ≠ [] := by simp [temporaryName]
  have hdot : temporaryName name ++ suffix ≠ ['.'] := by simp [temporaryName]
  simp [Path.isName, hslash, htemporary, hne, hdot]

/-- A place of a temporary file that goes with a target. -/
def IsTemporary (around : Surroundings) (target : Path) (place : Place) : Prop :=
  ∃ directory, ∃ suffix ∈ around.suffixes,
    place = directory ++ [temporaryName target.name ++ suffix]

variable {around : Surroundings} {target : Path} {s t : Store} {temporary : Text} {place : Place}

/-- The last name on the way to a temporary file begins with a dot and the name of the target. -/
theorem IsTemporary.name_eq {directory : Place} {name : Text}
    (h : IsTemporary around target (directory ++ [name])) :
    ∃ suffix ∈ around.suffixes, name = temporaryName target.name ++ suffix := by
  obtain ⟨directory', suffix, hsuffix, heq⟩ := h
  have hlast := congrArg List.getLast? heq
  rw [List.getLast?_concat, List.getLast?_concat] at hlast
  exact ⟨suffix, hsuffix, Option.some.inj hlast⟩

theorem Spot.isTemporary (h : Spot around target s temporary place)
    (hsuffixes : ∀ suffix ∈ around.suffixes, isEnding suffix = true) :
    IsTemporary around target place := by
  obtain ⟨suffix, hsuffix, rfl⟩ := h.named
  have hname := isName_temporaryName (hsuffixes suffix hsuffix) (slash_notMem_name target)
  have hproper : temporaryName target.name ++ suffix ≠ ".." := by
    intro heq
    have hlength := congrArg List.length heq
    simp [temporaryName] at hlength
    omega
  have hvacant := h.vacant
  rw [temporaryPath, Path.find_inside _ _ _ _ ⟨_, hname⟩] at hvacant
  split at hvacant
  · cases hvacant
  · obtain ⟨directory, hplace⟩ :=
      Walk.place_of_along_append_singleton (Path.Step.isProper ⟨_, hname⟩ hproper) _ _ _ hvacant
    exact ⟨directory, suffix, hsuffix, hplace⟩

end Names

section States

variable {around : Surroundings} {target : Path} {content : Text} {calledOff : Bool} {w : World}
  {s t : Store} {temporary : Text} {place : Place} {mode : Nat} {bytes : Bytes}

/--
Every state that writing a note goes through is on the way to the note, or is the last one
after a success.
-/
theorem create_history (h : t ∈ ((create content target calledOff).perform around
    { w with trail := [] }).2.history) :
    Underway around target w.store t ∨
      ∃ landing v,
        (create content target calledOff).perform around { w with trail := [] } =
          (.ok target, v) ∧
        Written around target content { w with trail := [] } landing v ∧
        t = v.store := by
  have hunderway : ∀ {u : World}, Approach around target { w with trail := [] } u →
      t ∈ u.history → Underway around target w.store t := by
    rintro u ⟨⟨states, hstates, hR⟩, -⟩ hmem
    rw [hstates, List.mem_append] at hmem
    rcases hmem with hmem | hmem
    · exact hR t hmem
    · obtain rfl : t = w.store := by simpa [World.history] using hmem
      exact Underway.refl around target w.store
  rcases create_cases around { w with trail := [] } content target calledOff with
    ⟨f, u, hf, happroach, -⟩ | ⟨landing, v, hok, hwritten⟩
  · rw [hf] at h
    exact Or.inl (hunderway happroach h)
  · rw [hok] at h
    obtain ⟨u, happroach, hhistory⟩ := hwritten.history
    have hlast : t = v.store ∨ t ∈ u.history := by
      rw [hwritten.store_eq]
      simpa [hhistory] using h
    rcases hlast with hlast | hbefore
    · exact Or.inr ⟨landing, v, hok, hwritten, hlast⟩
    · exact Or.inl (hunderway happroach hbefore)

/-- Writing a note goes through the state with all the directories that are made. -/
theorem prepared_mem_history (content : Text) (target : Path) (calledOff : Bool)
    (around : Surroundings) (w : World) :
    Disk.prepared around w.store target.parent ∈
      ((create content target calledOff).perform around w).2.history := by
  rcases create_cases around w content target calledOff with
    ⟨f, u, hf, happroach, -⟩ | ⟨landing, v, hok, hwritten⟩
  · rw [hf]
    exact happroach.prepared
  · obtain ⟨u, happroach, hhistory⟩ := hwritten.history
    rw [hok, hhistory]
    exact List.mem_cons_of_mem _ happroach.prepared

/-- A file on the way to a note is an old one or a temporary one. -/
theorem Underway.file_cases (h : Underway around target s t)
    (hsuffixes : ∀ suffix ∈ around.suffixes, isEnding suffix = true)
    (hfile : t.get? place = some (.file mode bytes)) :
    s.get? place = some (.file mode bytes) ∨ IsTemporary around target place := by
  have hold {u : Store} (hgrows : Store.Grows around.base target.parent s u)
      (hu : u.get? place = some (.file mode bytes)) :
      s.get? place = some (.file mode bytes) := hgrows.get?_of_ne_directory hu (by simp)
  have hprepared := Disk.grows_prepared around s target.parent
  rcases h with ⟨hgrows, -⟩ | ⟨-, rfl | ⟨temporary, spot, mode', bytes', hspot, rfl⟩⟩
  · exact Or.inl (hold hgrows hfile)
  · exact Or.inl (hold hprepared hfile)
  · by_cases hplace : place = spot
    · rw [hplace]
      exact Or.inr (hspot.isTemporary hsuffixes)
    · rw [Store.get?_insert_of_ne _ _ hplace] at hfile
      exact Or.inl (hold hprepared hfile)

/-- A file that is there after a note was written is an old one or the whole note. -/
theorem Written.file_cases {landing : Landing} {v : World}
    (h : Written around target content w landing v)
    (hfile : v.store.get? place = some (.file mode bytes)) :
    w.store.get? place = some (.file mode bytes) ∨
      mode = 0o644 ∧ bytes = Utf8.encode content ∧ landing.place = place := by
  rw [h.store_eq] at hfile
  by_cases hplace : place = landing.place
  · rw [hplace, Store.get?_insert_self] at hfile
    cases hfile
    exact Or.inr ⟨rfl, rfl, hplace.symm⟩
  · rw [Store.get?_insert_of_ne _ _ hplace] at hfile
    have hgrows := Disk.grows_prepared around w.store target.parent
    exact Or.inl (hgrows.get?_of_ne_directory hfile (by simp))

end States

section Targets

variable {around : Surroundings} {target : Path} {s t : Store} {temporary : Text} {place : Place}

/--
Directories that are made cannot turn the way of a path elsewhere: the directory of its last
name is there, or the path has no double dots.
-/
def IsStraight (s : Store) (base : Place) (p : Path) : Prop :=
  (∃ directory, s.find base true p.parent.toText = .ok (.found directory .directory)) ∨
    ∀ n ∈ p.steps, n.val ≠ ".."

/-- A path without steps leads to the same in all stores. -/
theorem entryAt?_of_steps_eq_nil (s t : Store) (base : Place) (follow : Bool) {p : Path}
    (h : p.steps = []) :
    s.entryAt? base follow p.toText = t.entryAt? base follow p.toText := by
  have hparts := Path.parts_eq_nil_iff.mpr h
  simp only [Store.entryAt?, Path.find_toText, hparts, Walk.along_nil]

/-- A target that is straight leads to what it led to when directories are added. -/
theorem entryAt?_of_grows (htree : s.IsTree) (hstraight : IsStraight s around.base target)
    (h : Store.Grows around.base target.parent s t) :
    t.entryAt? around.base false target.toText = s.entryAt? around.base false target.toText := by
  rcases target.steps_eq_nil_or with hnil | ⟨n, hsteps⟩
  · exact entryAt?_of_steps_eq_nil t s around.base false hnil
  · have hsnoc : target = target.parent.snoc n := by
      obtain ⟨anchor, steps⟩ := target
      simpa [Path.snoc, Path.parent] using hsteps
    by_cases hbefore : ∃ directory,
        s.find around.base true target.parent.toText = .ok (.found directory .directory)
    · obtain ⟨directory, hfound⟩ := hbefore
      rw [h.eq_of_found hfound]
    · have hup := hstraight.resolve_left hbefore
      have hnot := fun directory hfound => hbefore ⟨directory, hfound⟩
      rw [hsnoc] at hup
      rw [hsnoc, h.entryAt?_snoc htree hup hnot,
        Store.Grows.refl.entryAt?_snoc htree hup hnot]

/-- Where a path leads from the same directory depends on what is at its last name there. -/
theorem entryAt?_of_found {base directory : Place} {p : Path} {n : Path.Step}
    (hsteps : p.steps = p.parent.steps ++ [n])
    (hs : s.find base true p.parent.toText = .ok (.found directory .directory))
    (ht : t.find base true p.parent.toText = .ok (.found directory .directory))
    (hget : t.get? (directory ++ [n.val]) = s.get? (directory ++ [n.val])) :
    t.entryAt? base false p.toText = s.entryAt? base false p.toText := by
  by_cases hlong : Text.byteLength p.toText ≥ Walk.pathLimit
  · simp only [Store.entryAt?, Path.find_toText, if_pos hlong]
  · have hlook {u : Store} (hu : u.find base true p.parent.toText =
        .ok (.found directory .directory)) :
        ∃ left, u.find base false p.toText = Walk.along u false left directory [n.val] := by
      rcases Path.find_last u base hsteps with ⟨d, left, hd, hlook⟩ | ⟨hno, -⟩
      · rw [hu] at hd
        cases hd
        exact ⟨left, hlook false⟩
      · rcases hno with hno | hno
        · exact absurd hno hlong
        · exact absurd hu (hno directory)
    obtain ⟨left, hs⟩ := hlook hs
    obtain ⟨left', ht⟩ := hlook ht
    rw [Store.entryAt?, Store.entryAt?, hs, ht]
    by_cases hup : n.val = ".."
    · rw [hup, Walk.along_up, Walk.along_up, Walk.along_nil, Walk.along_nil]
    · have hproper := n.isProper hup
      rw [Walk.along_singleton hproper s left directory (by simp),
        Walk.along_singleton hproper t left' directory (by simp), hget]

/-- A temporary file is not where its target leads. -/
theorem entryAt?_insert_spot (h : Spot around target s temporary place)
    (hsuffixes : ∀ suffix ∈ around.suffixes, isEnding suffix = true)
    (hparent : ∃ directory,
      s.find around.base true target.parent.toText = .ok (.found directory .directory))
    (mode : Nat) (bytes : Bytes) :
    (s.insert place (.file mode bytes)).entryAt? around.base false target.toText =
      s.entryAt? around.base false target.toText := by
  rcases target.steps_eq_nil_or with hnil | ⟨n, hsteps⟩
  · exact entryAt?_of_steps_eq_nil _ s around.base false hnil
  · obtain ⟨directory, hparent⟩ := hparent
    have hkeeps := Store.keeps_insert_of_vacant h.get? (.file mode bytes)
    have hparent' := Store.find_found_of_keeps hkeeps.ways (hkeeps directory) hparent
    have hne : directory ++ [n.val] ≠ place := by
      rintro rfl
      obtain ⟨suffix, -, hname⟩ := (h.isTemporary hsuffixes).name_eq
      rw [← Path.name_eq_of_steps_eq hsteps] at hname
      exact temporaryName_ne target.name suffix hname.symm
    exact entryAt?_of_found hsteps hparent hparent' (Store.get?_insert_of_ne s _ hne)

/-- A target leads to what it led to in the first store, or to the whole note. -/
def OldOrWhole (around : Surroundings) (target : Path) (content : Text) (s t : Store) : Prop :=
  t.entryAt? around.base false target.toText = s.entryAt? around.base false target.toText ∨
    t.entryAt? around.base false target.toText = some (.file 0o644 (Utf8.encode content))

/--
If a target leads to the same when the directories are made, it does so while they are made,
and beside a temporary file.
-/
theorem Underway.oldOrWhole (h : Underway around target s t)
    (hsuffixes : ∀ suffix ∈ around.suffixes, isEnding suffix = true) {content : Text}
    (hprepared : OldOrWhole around target content s
      (Disk.prepared around s target.parent)) :
    OldOrWhole around target content s t := by
  rcases h with ⟨hst, htp⟩ | ⟨hparent, rfl | ⟨temporary, place, mode, bytes, hspot, rfl⟩⟩
  · -- what is there now is there when all directories are made, and what was there is there now
    cases ht : t.entryAt? around.base false target.toText with
    | some e =>
        obtain ⟨p, hfound⟩ := Store.entryAt?_eq_some.mp ht
        have hthere := Store.entryAt?_eq_some.mpr ⟨p, htp.find_of_find_found hfound⟩
        rwa [OldOrWhole, hthere, ← ht] at hprepared
    | none =>
        left
        cases hs : s.entryAt? around.base false target.toText with
        | none => exact ht
        | some e =>
            obtain ⟨p, hfound⟩ := Store.entryAt?_eq_some.mp hs
            rw [Store.entryAt?_eq_some.mpr ⟨p, hst.find_of_find_found hfound⟩] at ht
            cases ht
  · exact hprepared
  · rwa [OldOrWhole, entryAt?_insert_spot hspot hsuffixes hparent]

/-- A note that was written is what its target leads to, unless that is in its own way. -/
theorem Written.oldOrWhole {content : Text} {landing : Landing} {w v : World}
    (h : Written around target content w landing v)
    (hway : ¬ (Disk.prepared around w.store target.parent).InItsOwnWay around.base
      target.toText) :
    OldOrWhole around target content w.store v.store := by
  right
  rw [Store.entryAt?_eq_some, h.store_eq]
  exact ⟨landing.place, (Store.find_insert_file_iff h.lands h.link Disk.defaultMode
    (Utf8.encode content)).mpr hway false⟩

end Targets

section Catalogs

variable {around : Surroundings} {target : Path} {s t : Store}

/-- A temporary file is not seen among templates. -/
theorem Unfinished.unseen (h : Unfinished around target s t)
    (hsuffixes : ∀ suffix ∈ around.suffixes, isEnding suffix = true) (place : Place) :
    Catalog.Unseen place s t := by
  rcases h with rfl | ⟨temporary, spot, mode, bytes, hspot, rfl⟩
  · exact Catalog.Unseen.refl place t
  · refine (Catalog.Unseen.refl place s).insert hspot.get? rfl fun name heq _ => ?_
    have htemporary := hspot.isTemporary hsuffixes
    rw [heq] at htemporary
    obtain ⟨suffix, hsuffix, rfl⟩ := htemporary.name_eq
    exact endsWith_temporaryName (hsuffixes suffix hsuffix) target.name

/-- What is new on the way to a note is not seen among templates. -/
theorem Underway.unseen (h : Underway around target s t)
    (hsuffixes : ∀ suffix ∈ around.suffixes, isEnding suffix = true) (place : Place) :
    Catalog.Unseen place s t := by
  rcases h with ⟨hgrows, -⟩ | ⟨-, hunfinished⟩
  · exact Catalog.unseen_of_grows hgrows place
  · have hprepared := Disk.grows_prepared around s target.parent
    exact (Catalog.unseen_of_grows hprepared place).trans (hunfinished.unseen hsuffixes place)

/-- Directories are added on a way that was bare ground, and it stays bare. -/
theorem bare_of_grows {base : Place} {p : Path} (htree : s.IsTree)
    (hup : ∀ n ∈ p.steps, n.val ≠ "..") (hshort : p.IsShort)
    (hbefore : ∀ r, s.find base true p.toText ≠ .ok (.found r .directory))
    (h : Store.Grows base p s t) (hne : t ≠ s) :
    Catalog.Bare s base p ∧ Catalog.Bare t base p := by
  refine ⟨Or.inl (h.lacks hne hshort), ?_⟩
  rcases h.found_or_lacks htree hup hne hshort with
    ⟨place, hfound⟩ | hlacks
  · refine Catalog.bare_of_fresh h hfound fun name e hmem => ?_
    have hfresh := h.fresh htree hup hbefore hfound (List.prefix_append place [name])
    exact Store.get?_ne_none_of_mem hmem hfresh
  · exact Or.inl hlacks

/-- The directory of a note that was not there before is bare until the note is written. -/
theorem Underway.bare (h : Underway around target s t) (htree : s.IsTree)
    (hsuffixes : ∀ suffix ∈ around.suffixes, isEnding suffix = true)
    (hup : ∀ n ∈ target.parent.steps, n.val ≠ "..") (hshort : target.parent.IsShort)
    (hbefore : ∀ r, s.find around.base true target.parent.toText ≠ .ok (.found r .directory))
    (hne : t ≠ s) :
    Catalog.Bare s around.base target.parent ∧ Catalog.Bare t around.base target.parent := by
  have hprepared := Disk.grows_prepared around s target.parent
  rcases h with ⟨hgrows, -⟩ | ⟨⟨place, hfound⟩, hunfinished⟩
  · exact bare_of_grows htree hup hshort hbefore hgrows hne
  · have hnew : Disk.prepared around s target.parent ≠ s := by
      intro heq
      rw [heq] at hfound
      exact hbefore place hfound
    obtain ⟨hs, hbare⟩ := bare_of_grows htree hup hshort hbefore hprepared hnew
    exact ⟨hs, hbare.of_unseen hfound (hunfinished.unseen hsuffixes place)⟩

/--
A directory of templates that is loaded alike until a note is written: it holds no links,
and it is there, or it is the directory that is made for the note, and its path has no
double dots and is not too long.
-/
structure IsSteady (s : Store) (reader around : Surroundings) (target directory : Path) :
    Prop where
  links : ∀ place, s.find reader.base true directory.toText = .ok (.found place .directory) →
    ∀ name l, (name, Entry.link l) ∉ s.children place
  there :
    (∃ place, s.find reader.base true directory.toText = .ok (.found place .directory)) ∨
      reader.directory = around.directory ∧ directory = target.parent ∧ directory.IsShort ∧
        ∀ n ∈ directory.steps, n.val ≠ ".."

/-- Until a note is written, a steady directory of templates is loaded as before. -/
theorem Underway.load_eq (h : Underway around target s t) (htree : s.IsTree)
    (hsuffixes : ∀ suffix ∈ around.suffixes, isEnding suffix = true)
    {settings : Settings} {reader : Surroundings} {directory : Path}
    (hpath : settings.templatesPath reader.environment reader.directory = .ok directory)
    (hsteady : IsSteady s reader around target directory) (x : World) :
    ((Catalog.load settings).perform reader { x with store := t }).1 =
      ((Catalog.load settings).perform reader { x with store := s }).1 := by
  by_cases hsame : t = s
  · rw [hsame]
  · have halike : EndsAlike reader s t (Catalog.ofDirectory directory.toText) := by
      by_cases hthere :
          ∃ place, s.find reader.base true directory.toText = .ok (.found place .directory)
      · obtain ⟨place, hfound⟩ := hthere
        exact Catalog.endsAlike_of_unseen htree hfound (hsteady.links place hfound)
          (h.unseen hsuffixes place)
      · obtain ⟨hreader, rfl, hshort, hup⟩ := hsteady.there.resolve_left hthere
        have hbase : reader.base = around.base := congrArg Path.parts hreader
        have hbefore := fun r hfound => hthere ⟨r, hfound⟩
        rw [hbase] at hbefore
        obtain ⟨hs, ht⟩ := h.bare htree hsuffixes hup hshort hbefore hsame
        rw [← hbase] at hs ht
        exact Catalog.endsAlike_of_bare hs ht
    have hload : EndsAlike reader s t (Catalog.load settings) := by
      refine Catalog.endsAlike_load fun directory' hpath' => ?_
      rw [hpath] at hpath'
      cases hpath'
      exact halike
    exact (hload { x with store := s } { x with store := t } rfl rfl).symm

end Catalogs

section Interruption

variable (content : Text) (target : Path) (calledOff : Bool) (around : Surroundings) (w : World)

/--
Writing a note may be cut off after any call. In every state that is left behind, every file
that was there is kept, every other one is a temporary file or the whole note where the
target led, and a steady directory of templates is loaded as before unless the writing was
done. A target that is not in its own way leads to what it led to before or to the whole
note in every state, if and only if it does so when the directories are made; a straight
target does.
-/
theorem create_interrupted (htree : w.store.IsTree)
    (hsuffixes : ∀ suffix ∈ around.suffixes, isEnding suffix = true) :
    let run := (create content target calledOff).perform around { w with trail := [] }
    let prepared := Disk.prepared around w.store target.parent
    (∀ t ∈ run.2.history,
      (∀ q mode bytes, w.store.get? q = some (.file mode bytes) →
        t.get? q = some (.file mode bytes)) ∧
      (∀ q mode bytes, t.get? q = some (.file mode bytes) →
        w.store.get? q = some (.file mode bytes) ∨
        IsTemporary around target q ∨
        mode = 0o644 ∧ bytes = Utf8.encode content ∧
          ∃ landing, prepared.find around.base false target.toText = .ok landing ∧
            landing.place = q) ∧
      ∀ (settings : Settings) (reader : Surroundings) (x : World) (directory : Path),
        settings.templatesPath reader.environment reader.directory = .ok directory →
        IsSteady w.store reader around target directory →
        ((Catalog.load settings).perform reader { x with store := t }).1 =
            ((Catalog.load settings).perform reader { x with store := w.store }).1 ∨
          run.1 = .ok target ∧ t = run.2.store) ∧
    (¬ prepared.InItsOwnWay around.base target.toText →
      ((∀ t ∈ run.2.history, OldOrWhole around target content w.store t) ↔
        OldOrWhole around target content w.store prepared)) ∧
    (IsStraight w.store around.base target →
      OldOrWhole around target content w.store prepared) := by
  intro run prepared
  refine ⟨fun t ht => ?_, fun hway => ⟨?_, ?_⟩, ?_⟩
  · rcases create_history ht with hunderway | ⟨landing, v, hrun, hwritten, rfl⟩
    · refine ⟨?_, ?_, ?_⟩
      · exact fun q mode bytes hq => hunderway.keeps q _ hq
      · intro q mode bytes hq
        rcases hunderway.file_cases hsuffixes hq with hold | htemporary
        · exact Or.inl hold
        · exact Or.inr (Or.inl htemporary)
      · exact fun settings reader x directory hpath hsteady =>
          Or.inl (hunderway.load_eq htree hsuffixes hpath hsteady x)
    · refine ⟨?_, ?_, ?_⟩
      · exact fun q mode bytes hq => hwritten.get? hq rfl
      · intro q mode bytes hq
        rcases hwritten.file_cases hq with hold | ⟨hmode, hbytes, hplace⟩
        · exact Or.inl hold
        · exact Or.inr (Or.inr ⟨hmode, hbytes, landing, hwritten.lands, hplace⟩)
      · intro settings reader x directory _ _
        right
        have hrun' : run = (.ok target, v) := hrun
        rw [hrun']
        exact ⟨rfl, rfl⟩
  · exact fun hall => hall prepared (prepared_mem_history content target calledOff around _)
  · intro hprepared t ht
    rcases create_history ht with hunderway | ⟨landing, v, -, hwritten, rfl⟩
    · exact hunderway.oldOrWhole hsuffixes hprepared
    · exact hwritten.oldOrWhole hway
  · exact fun hstraight => Or.inl
      (entryAt?_of_grows htree hstraight (Disk.grows_prepared around w.store target.parent))

/-- A file system with a directory of templates and one template in it. -/
def oneTemplate : Store :=
  { entries :=
      [(["n", "templates", "1-n-old.md"], .file 0o644 (Utf8.encode "hi")),
        (["n", "templates"], .directory), (["n"], .directory)] }

/-- The path of another template in that directory. -/
def another : Path :=
  Path.ofText "/n/templates/1-n-new.md"

theorem create_interrupted_beside_template :
    let around := Surroundings.plain
    let w : World := { store := oneTemplate }
    let run := (create "new" another false).perform around { w with trail := [] }
    oneTemplate.IsTree ∧ (∀ suffix ∈ around.suffixes, isEnding suffix = true) ∧
      run.1 = .ok another ∧
      ∀ t ∈ run.2.history,
        (t.entryAt? around.base false another.toText = none ∨
          t.entryAt? around.base false another.toText =
            some (.file 0o644 (Utf8.encode "new"))) ∧
        ∀ x : World,
          ((Catalog.load Notebook.plain.settings).perform around { x with store := t }).1 =
              ((Catalog.load Notebook.plain.settings).perform around
                { x with store := w.store }).1 ∨
            t = run.2.store := by
  intro around w run
  have htree : oneTemplate.IsTree := ⟨by decide +kernel, by decide +kernel⟩
  have hsuffixes : ∀ suffix ∈ around.suffixes, isEnding suffix = true := by decide
  have hparent : ∃ directory,
      oneTemplate.find around.base true another.parent.toText =
        .ok (.found directory .directory) :=
    ⟨["n", "templates"], by decide +kernel⟩
  have hway : ¬ (Disk.prepared around oneTemplate another.parent).InItsOwnWay around.base
      another.toText := by
    rintro ⟨p, l, hfind, -⟩
    have hvacant : (Disk.prepared around oneTemplate another.parent).find around.base false
        another.toText = .ok (.vacant ["n", "templates", "1-n-new.md"]) := by decide +kernel
    rw [hvacant] at hfind
    cases hfind
  have hsteady : IsSteady oneTemplate around around another another.parent := by
    refine ⟨fun place hfound name l hmem => ?_, Or.inl hparent⟩
    have hlink : ∀ entry ∈ oneTemplate.entries, entry.2.isLink = false := by decide +kernel
    cases hlink _ (Store.mem_children.mp hmem)
  have hpath : Notebook.plain.settings.templatesPath around.environment around.directory =
      .ok another.parent := by decide +kernel
  have hbefore : oneTemplate.entryAt? around.base false another.toText = none := by
    decide +kernel
  have hrun : run.1 = .ok another := by decide +kernel
  obtain ⟨hstates, hsafe, hstraight⟩ :=
    create_interrupted "new" another false around w htree hsuffixes
  refine ⟨htree, hsuffixes, hrun, fun t ht => ⟨?_, fun x => ?_⟩⟩
  · have hold := (hsafe hway).mpr (hstraight (Or.inl hparent)) t ht
    rcases hold with hsame | hwhole
    · exact Or.inl (hsame.trans hbefore)
    · exact Or.inr hwhole
  · obtain ⟨-, -, hload⟩ := hstates t ht
    rcases hload Notebook.plain.settings around x another.parent hpath hsteady with
      hsame | ⟨-, hlast⟩
    · exact Or.inl hsame
    · right
      rw [hlast]

/--
A target with double dots behind a directory that is missing leads to an old file as soon as
that directory is made, and stays so if the writing is called off.
-/
theorem create_turned_elsewhere :
    let w : World := { store :=
      { entries := [(["b", "x.md"], .file 0o644 (Utf8.encode "old")), (["b"], .directory)] } }
    let target := Path.ofText "/a/../b/x.md"
    let run := (create "new" target true).perform .plain w
    ¬ ∀ t ∈ run.2.history,
      t.entryAt? [] false target.toText = w.store.entryAt? [] false target.toText ∨
        t.entryAt? [] false target.toText = some (.file 0o644 (Utf8.encode "new")) := by
  decide +kernel

end Interruption

end Materialization
end NoteTemplates
