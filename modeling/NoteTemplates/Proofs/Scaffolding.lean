import NoteTemplates.Proofs.AllOrNothing
import NoteTemplates.Proofs.Overwriting

/-!
# New templates stay in their directory

The file of a new template is named after its priority, its category and its name. The three
are joined to one text before the text is read as a path, so the directory in which the file
is put depends on all of them.

If there is no slash in the category, the text is one name. Then nothing can be added but
directories on the way of the directory of the templates, itself among them, and one file
directly in it, under that name. A slash in the category is not refused; then a file that is
made is somewhere else.
-/

namespace NoteTemplates

open Effect

namespace Filename

theorem slash_notMem_ofNat (n : Nat) : '/' ∉ Text.ofNat n := by
  intro hmem
  have hdigit := Nat.isDigit_of_mem_toDigits (by decide) (by decide) hmem
  exact absurd hdigit (by decide)

theorem slash_notMem_ofInt (n : Int) : '/' ∉ Text.ofInt n := by
  cases n with
  | ofNat n => exact slash_notMem_ofNat n
  | negSucc n =>
      rw [Text.ofInt, List.mem_cons, not_or]
      exact ⟨by decide, slash_notMem_ofNat _⟩

/-- The slashes of a file name are those of the category and the name that it is made of. -/
theorem slash_mem_assemble {priority : Int} {category name : Text} :
    '/' ∈ assemble priority category name ↔ '/' ∈ category ∨ '/' ∈ name := by
  have hpriority := slash_notMem_ofInt priority
  have hsuffix : '/' ∉ suffix := by decide
  simp [assemble, hpriority, hsuffix]

/-- A file name that is made without slashes is one name. -/
theorem isName_assemble {priority : Int} {category name : Text}
    (h : '/' ∉ assemble priority category name) :
    Path.isName (assemble priority category name) = true := by
  have hlength : 3 ≤ (assemble priority category name).length := by
    have hsuffix : suffix.length = 3 := by decide
    simp only [assemble, List.length_append]
    omega
  have hne : assemble priority category name ≠ [] := by
    intro hnil
    simp [hnil] at hlength
  have hdot : assemble priority category name ≠ ['.'] := by
    intro hone
    simp [hone] at hlength
  simp [Path.isName, hne, hdot, h]

end Filename

namespace Path

/-- A text without slashes that is a name stands for the path of one step. -/
theorem ofText_of_isName {s : Text} (h : isName s = true) :
    ofText s = ⟨.here, [⟨s, h⟩]⟩ := by
  have hslash : '/' ∉ s := Step.slash_notMem ⟨s, h⟩
  have hanchor : anchorOf s = .here := by
    unfold anchorOf
    split <;> simp_all
  rw [ofText, hanchor, Text.splitOn_of_notMem hslash]
  simp [Step.ofPart?, h]

theorem child_of_isName (p : Path) {s : Text} (h : isName s = true) :
    p.child s = p.snoc ⟨s, h⟩ := by
  rw [child, ofText_of_isName h]
  simp [join, isAbsolute, snoc]

end Path

namespace Materialization

variable {around : Surroundings} {target : Path} {content : Text} {w v : World}
  {landing : Landing}

/-- A note is put under the last step of its target, in the directory of the target. -/
theorem Written.place_eq (h : Written around target content w landing v) :
    ∃ place n, target.steps = target.parent.steps ++ [n] ∧
      (Disk.prepared around w.store target.parent).find around.base true target.parent.toText =
        .ok (.found place .directory) ∧
      landing.place = place ++ [n.val] := by
  have hlands := h.lands
  have hdir : ∀ p, landing ≠ .found p .directory := by
    rintro p rfl
    cases h.link p _ rfl
  rcases target.steps_eq_nil_or with hnil | ⟨n, hsteps⟩
  · rw [Path.find_toText, Path.parts_eq_nil_iff.mpr hnil, Walk.along_nil] at hlands
    split at hlands
    · cases hlands
    · cases hlands
      exact absurd rfl (hdir _)
  · rcases Path.find_last _ around.base hsteps with ⟨place, left, hparent, hlook⟩ | ⟨-, herr⟩
    · rw [hlook] at hlands
      refine ⟨place, n, hsteps, hparent, ?_⟩
      by_cases hup : n.val = ".."
      · rw [hup, Walk.along_up, Walk.along_nil] at hlands
        cases hlands
        exact absurd rfl (hdir _)
      · rw [Walk.along_singleton (n.isProper hup) _ left place (by simp)] at hlands
        split at hlands
        · cases hlands
        · cases hlands
          exact Landing.place_ofEntry _ _
    · obtain ⟨errno, herr⟩ := herr false
      rw [herr] at hlands
      cases hlands

/-- The file of a note was not there before the note was written. -/
theorem Written.new (h : Written around target content w landing v) (mode : Nat)
    (bytes : Bytes) : w.store.get? landing.place ≠ some (.file mode bytes) := by
  intro hold
  have hkept := (Disk.grows_prepared around w.store target.parent).keeps _ _ hold
  cases h.isLink hkept

/-- The file of a note is there after the note was written. -/
theorem Written.get?_place (h : Written around target content w landing v) :
    v.store.get? landing.place = some (.file Disk.defaultMode (Utf8.encode content)) := by
  rw [h.store_eq, Store.get?_insert_self]

end Materialization

/--
A file was put under a name in the directory to which a path leads, after directories on the
way were added. Nothing was under the name before, or a link.
-/
def PutsInside (around : Surroundings) (directory : Path) (name content : Text)
    (s t : Store) : Prop :=
  ∃ u place, Store.Grows around.base directory s u ∧
    u.find around.base true directory.toText = .ok (.found place .directory) ∧
    (∀ e, u.get? (place ++ [name]) = some e → e.isLink = true) ∧
    t = u.insert (place ++ [name]) (.file Disk.defaultMode (Utf8.encode content))

/-- A note whose target is one step from a directory is put under that name in it. -/
theorem Materialization.Written.putsInside {around : Surroundings} {directory : Path}
    {n : Path.Step} {content : Text} {w v : World} {landing : Landing}
    (h : Written around (directory.snoc n) content w landing v) :
    PutsInside around directory n.val content w.store v.store := by
  have hstore := h.store_eq
  have hlink := fun e => h.isLink (e := e)
  obtain ⟨place, m, hsteps, hparent, hplace⟩ := h.place_eq
  obtain rfl : n = m := by simpa using (Path.steps_snoc directory n).symm.trans hsteps
  rw [Path.parent_snoc, hplace] at hstore hlink
  rw [Path.parent_snoc] at hparent
  exact ⟨_, place, Disk.grows_prepared around w.store directory, hparent, hlink, hstore⟩

namespace Notebook

variable (book : Notebook)

/-- Nothing is new, or only directories on the way of the directory of the templates. -/
def AddsDirectories (around : Surroundings) (s t : Store) : Prop :=
  t = s ∨ ∃ directory,
    book.settings.templatesPath around.environment around.directory = .ok directory ∧
    Store.Grows around.base directory s t

/-- A file was put under a name in the directory of the templates. -/
def PutsTemplate (around : Surroundings) (name content : Text) (s t : Store) : Prop :=
  ∃ directory,
    book.settings.templatesPath around.environment around.directory = .ok directory ∧
    PutsInside around directory name content s t

/--
Nothing is new but directories on the way of the directory of the templates and at most one
file, which is under a name in that directory.
-/
def StaysInside (around : Surroundings) (name : Text) (s t : Store) : Prop :=
  book.AddsDirectories around s t ∨ ∃ content, book.PutsTemplate around name content s t

section Scaffolding

variable {name : Text} {priority : Int} {category : Text} {around : Surroundings} {w : World}

/-- A priority that cannot be written is refused before anything is done. -/
theorem scaffold_of_not_isWritable (name category : Text) (openEditor : Bool)
    (h : Text.isWritable priority = false) :
    (book.scaffold name priority category openEditor).perform around w =
      (.error (.number .unwritable), w) := by
  simp only [scaffold, newFilename, h, Bool.not_false, if_true, perform_bind, perform_settle]

/-- What is refused is refused before anything is done. -/
theorem scaffold_of_not_allowed (openEditor : Bool) (hwritable : Text.isWritable priority = true)
    (h : allowed name priority category = false) :
    (book.scaffold name priority category openEditor).perform around w =
      (.error (.template
        { kind := .invalidFilename, detail := Filename.assemble priority category name }), w) := by
  simp only [scaffold, newFilename, hwritable, h, Bool.not_true, Bool.not_false,
    Bool.false_eq_true, if_false, if_true, perform_bind, perform_settle]

/-- What is not refused is written, if there is a directory of templates at all. -/
theorem scaffold_cases (name : Text) (priority : Int) (category : Text) (openEditor : Bool)
    (around : Surroundings) (w : World) :
    (∃ f, (book.scaffold name priority category openEditor).perform around w = (.error f, w)) ∨
    ∃ directory,
      book.settings.templatesPath around.environment around.directory = .ok directory ∧
      match (Materialization.create (starter name)
          (directory.child (Filename.assemble priority category name)) false).perform around w with
      | (.error f, u) =>
          (book.scaffold name priority category openEditor).perform around w = (.error f, u)
      | (.ok p, u) =>
          ∃ result v,
            (book.scaffold name priority category openEditor).perform around w = (result, v) ∧
            v.history = u.history ∧
            (result = .ok p ∨ openEditor = true ∧ ∃ f, result = .error f) := by
  rw [scaffold, perform_bind, perform_settle]
  cases hfilename : newFilename name priority category with
  | error f => exact Or.inl ⟨f, rfl⟩
  | ok filename =>
      obtain rfl := eq_assemble_of_newFilename hfilename
      simp only [templatesPath, perform_bind, perform_read, perform_settle]
      cases book.settings.templatesPath around.environment around.directory with
      | error f => exact Or.inl ⟨f, rfl⟩
      | ok directory =>
          refine Or.inr ⟨directory, rfl, ?_⟩
          dsimp only
          cases (Materialization.create (starter name)
              (directory.child (Filename.assemble priority category name)) false).perform
                around w with
          | mk result u =>
              cases result with
              | error f => rfl
              | ok p =>
                  dsimp only
                  cases openEditor with
                  | false => exact ⟨_, u, rfl, rfl, Or.inl rfl⟩
                  | true =>
                      have hquiet := (Editor.calm_openFile p.toText
                        (book.settings.resolvedEditor around.environment)).quiet around u
                      simp only [if_true, editor, perform_bind, perform_read, perform_pure]
                      cases hopened : (Editor.openFile p.toText
                          (book.settings.resolvedEditor around.environment)).perform around u with
                      | mk result v =>
                          rw [hopened] at hquiet
                          cases result with
                          | error f => exact ⟨_, v, rfl, hquiet, Or.inr ⟨trivial, f, rfl⟩⟩
                          | ok => exact ⟨_, v, rfl, hquiet, Or.inl rfl⟩

/--
A new template whose category has no slash is refused or fails, with directories made at most,
or it is written into the directory of the templates.
-/
theorem scaffold_outcome (name : Text) (priority : Int) (openEditor : Bool) (w : World)
    (hspares : around.Spares .remove) (hslash : '/' ∉ category) :
    let run := (book.scaffold name priority category openEditor).perform around w
    (∃ f, run.1 = .error f) ∧ book.AddsDirectories around w.store run.2.store ∨
      allowed name priority category = true ∧
      ∃ (path : Path) (n : Path.Step) (landing : Landing),
        n.val = Filename.assemble priority category name ∧
        book.settings.templatesPath around.environment around.directory = .ok path ∧
        '\x00' ∉ (path.snoc n).toText ∧
        Materialization.Written around (path.snoc n) (starter name) w landing run.2 ∧
        (run.1 = .ok (path.snoc n) ∨ openEditor = true ∧ ∃ f, run.1 = .error f) := by
  intro run
  by_cases hwritable : Text.isWritable priority = true
  case neg =>
    have hrefused : run = _ :=
      book.scaffold_of_not_isWritable name category openEditor (by simpa using hwritable)
    rw [hrefused]
    exact Or.inl ⟨⟨_, rfl⟩, Or.inl rfl⟩
  by_cases hallowed : allowed name priority category = true
  case neg =>
    have hrefused : run = _ :=
      book.scaffold_of_not_allowed openEditor hwritable (by simpa using hallowed)
    rw [hrefused]
    exact Or.inl ⟨⟨_, rfl⟩, Or.inl rfl⟩
  have hname : '/' ∉ name := by
    simp only [allowed, Bool.and_eq_true, decide_eq_true_eq] at hallowed
    exact hallowed.1.2
  let n : Path.Step := ⟨Filename.assemble priority category name,
    Filename.isName_assemble (by rw [Filename.slash_mem_assemble]; tauto)⟩
  rcases book.scaffold_cases name priority category openEditor around w with
    ⟨f, hf⟩ | ⟨path, hpath, hwrites⟩
  · exact Or.inl ⟨⟨f, congrArg Prod.fst hf⟩, Or.inl (congrArg (fun r => r.2.store) hf)⟩
  · rw [show path.child (Filename.assemble priority category name) = path.snoc n from
      path.child_of_isName n.property] at hwrites
    rcases Materialization.create_cases around w (starter name) (path.snoc n) false with
      ⟨f, u, hf, -, hclean⟩ | ⟨landing, u, hok, hwritten⟩
    · left
      rw [hf] at hwrites
      refine ⟨⟨f, congrArg Prod.fst hwrites⟩, Or.inr ⟨path, hpath, ?_⟩⟩
      rw [show run = _ from hwrites, hclean hspares, Path.parent_snoc]
      exact Disk.grows_prepared around w.store path
    · right
      have hnul := Materialization.nul_notMem_of_create (congrArg Prod.fst hok)
      rw [hok] at hwrites
      obtain ⟨result, v, hrun, hhistory, hresult⟩ := hwrites
      rw [show run = _ from hrun]
      exact ⟨hallowed, path, n, landing, rfl, hpath, hnul, hwritten.congr rfl hhistory, hresult⟩

/--
A new template whose category has no slash is put in the directory of the templates, or only
directories are added.
-/
theorem scaffold_inside (name : Text) (priority : Int) (openEditor : Bool) (w : World)
    (hspares : around.Spares .remove) (hslash : '/' ∉ category) :
    let filename := Filename.assemble priority category name
    let run := (book.scaffold name priority category openEditor).perform around w
    (∃ f, run.1 = .error f) ∧ book.AddsDirectories around w.store run.2.store ∨
      book.PutsTemplate around filename (starter name) w.store run.2.store ∧
        ((∃ directory,
            book.settings.templatesPath around.environment around.directory = .ok directory ∧
            run.1 = .ok (directory.child filename)) ∨
          openEditor = true ∧ ∃ f, run.1 = .error f) := by
  intro filename run
  rcases book.scaffold_outcome name priority openEditor w hspares hslash with
    hadds | ⟨-, path, n, landing, hn, hpath, -, hwritten, hresult⟩
  · exact Or.inl hadds
  · have hputs := hwritten.putsInside
    have hchild : path.child filename = path.snoc n := by
      rw [show filename = n.val from hn.symm, path.child_of_isName n.property]
    rw [hn] at hputs
    exact Or.inr ⟨⟨path, hpath, hputs⟩, hresult.imp_left fun hp =>
      ⟨path, hpath, by rw [hchild]; exact hp⟩⟩

/-- A file that was written under a name without slashes is not under a name that has one. -/
theorem not_staysInside {p : Path} {content : Text} {v : World} {landing : Landing}
    (h : Materialization.Written around p content w landing v) {filename : Text}
    (hslash : '/' ∈ filename) : ¬ book.StaysInside around filename w.store v.store := by
  obtain ⟨place, n, -, -, hplace⟩ := h.place_eq
  have hold : ∀ directory, ¬ Store.Grows around.base directory w.store v.store :=
    fun directory hgrows => h.new _ _ (hgrows.get?_of_ne_directory h.get?_place (by simp))
  rintro ((heq | ⟨directory, -, hgrows⟩) | ⟨other, directory, -, u, inner, hgrows, -, -, heq⟩)
  · exact h.new _ _ (heq ▸ h.get?_place)
  · exact hold directory hgrows
  · -- the file is not the one under the name, so it would have been there before
    have hne : landing.place ≠ inner ++ [filename] := by
      rw [hplace]
      intro hsame
      have hlast : n.val = filename := by simpa using List.append_inj_right' hsame rfl
      exact n.slash_notMem (hlast ▸ hslash)
    have hthere := h.get?_place
    rw [heq, Store.get?_insert_of_ne _ _ hne] at hthere
    exact h.new _ _ (hgrows.get?_of_ne_directory hthere (by simp))

end Scaffolding

/--
What making a new template does, provided that no removal is made to fail. Arguments that are
not allowed are refused before anything is done, and so is a priority with too many digits for
a file name, whatever the other arguments are. If there is no slash in the category, nothing
is new but directories on the way of the directory of the templates and, unless the call
fails before it has written, one file directly in that directory under the name that is made
of the arguments; once the file is written, only the editor can make the call fail. A call
that succeeds has put its file there, and nothing else, if and only if there is no slash in
the category.
-/
theorem scaffold_stays_iff (name : Text) (priority : Int) (category : Text) (openEditor : Bool)
    (around : Surroundings) (w : World) (hspares : around.Spares .remove) :
    let filename := Filename.assemble priority category name
    let run := (book.scaffold name priority category openEditor).perform around w
    (Text.isWritable priority = false → run = (.error (.number .unwritable), w)) ∧
    (Text.isWritable priority = true → allowed name priority category = false →
      run = (.error (.template { kind := .invalidFilename, detail := filename }), w)) ∧
    ('/' ∉ category →
      (∃ f, run.1 = .error f) ∧ book.AddsDirectories around w.store run.2.store ∨
        book.PutsTemplate around filename (starter name) w.store run.2.store ∧
          ((∃ directory,
              book.settings.templatesPath around.environment around.directory = .ok directory ∧
              run.1 = .ok (directory.child filename)) ∨
            openEditor = true ∧ ∃ f, run.1 = .error f)) ∧
    ∀ p, run.1 = .ok p →
      (book.StaysInside around filename w.store run.2.store ↔ '/' ∉ category) := by
  intro filename run
  have hinside (hslash : '/' ∉ category) :=
    book.scaffold_inside name priority openEditor w hspares hslash
  refine ⟨fun h => book.scaffold_of_not_isWritable name category openEditor h,
    fun hwritable h => book.scaffold_of_not_allowed openEditor hwritable h, hinside,
    fun p hp => ⟨?_, ?_⟩⟩
  · intro hstays hslash
    obtain ⟨content, landing, hwritten⟩ :=
      (Writer.scaffold book name priority category openEditor).written (Prod.ext hp rfl)
    exact book.not_staysInside hwritten (Filename.slash_mem_assemble.mpr (Or.inl hslash)) hstays
  · intro hslash
    rcases hinside hslash with ⟨-, hdirectories⟩ | ⟨hputs, -⟩
    · exact Or.inl hdirectories
    · exact Or.inr ⟨_, hputs⟩

/-- A category with a slash puts the file of a new template beside the directory of templates. -/
theorem scaffold_stays_iff_beside :
    let run := (plain.scaffold "a" 1 "x/../../y" false).perform .plain { store := {} }
    Surroundings.plain.Spares .remove ∧
      run.1 = .ok (Path.ofText "/n/templates/1-x/../../y-a.md") ∧
      run.2.store.get? ["n", "y-a.md"] =
        some (.file Disk.defaultMode (Utf8.encode (starter "a"))) ∧
      ¬ plain.StaysInside .plain (Filename.assemble 1 "x/../../y" "a") {} run.2.store := by
  have hspares := Surroundings.spares_plain .remove
  obtain ⟨-, -, -, hiff⟩ :=
    plain.scaffold_stays_iff "a" 1 "x/../../y" false .plain { store := {} } hspares
  have hrun : ((plain.scaffold "a" 1 "x/../../y" false).perform .plain { store := {} }).1 =
      .ok (Path.ofText "/n/templates/1-x/../../y-a.md") := by decide +kernel
  refine ⟨hspares, hrun, by decide +kernel, ?_⟩
  rw [hiff _ hrun]
  decide

end Notebook
end NoteTemplates
