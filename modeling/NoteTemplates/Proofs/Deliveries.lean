import NoteTemplates.Proofs.AllOrNothing
import NoteTemplates.Proofs.Replies

/-!
# Deliveries

A note is delivered by writing it and, if that is wanted, opening it. A delivery is stopped, and
then at most directories on the way to its target are new; or the whole note is written, and
then the editor ends with status zero if it is wanted, or opening fails. The notes of templates
and new templates both end in a delivery.
-/

namespace NoteTemplates

open Effect

namespace Editor

/-- The program of an editor command was started with a path and ended with a status. -/
def ExitsWith (around : Surroundings) (path : Text) (editor : Option Text) (status : Int)
    (w v : World) : Prop :=
  ∃ program arguments x, ((command editor).perform around w).1 = .ok (program :: arguments) ∧
    x.store = w.store ∧
    (launch program (arguments ++ [path]) (candidates around.environment program) none
      .noEntry).perform around x = (.ok status, v)

/-- A file was opened if the program ended with status zero. -/
theorem exitsWith_of_openFile {around : Surroundings} {path : Text} {editor : Option Text}
    {w v : World} (h : (openFile path editor).perform around w = (.ok (), v)) :
    ExitsWith around path editor 0 w v := by
  rw [openFile] at h
  obtain ⟨words, x, hcommand, h⟩ := ok_of_bind h
  have hquiet := (calm_command editor).quiet around w
  rw [hcommand] at hquiet
  cases words with
  | nil => cases h
  | cons program arguments =>
      dsimp only at h
      split at h
      · cases h
      obtain ⟨_, y, hnoted, h⟩ := ok_of_bind h
      cases hnoted
      rw [perform_bind_ok _ _ (perform_read around _)] at h
      obtain ⟨status, z, hlaunch, h⟩ := ok_of_bind h
      split at h
      · cases h
      · rename_i hzero
        obtain rfl : status = 0 := not_not.mp hzero
        cases h
        have hstore : x.store = w.store := World.store_eq_of_history_eq hquiet
        exact ⟨program, arguments, x.noted _, by rw [hcommand], hstore, hlaunch⟩

end Editor

namespace Notebook

open Materialization

/-- Writes a note and opens it if that is wanted. -/
def deliver (content : Text) (target : Path) (editor : Option Text) (opens : Bool) :
    Effect Path := do
  let created ← create content target false
  if opens then Editor.openFile created.toText editor
  return created

/-- How writing a note ends that is opened if that is wanted, and what the files are then. -/
inductive Delivery (around : Surroundings) (content : Text) (target : Path)
    (editor : Option Text) (opens : Bool) (s : Store) : Except Failure Path × World → Prop
  | stopped {f : Failure} {v : World} (own : f.IsOwn)
      (directories : OnlyDirectoriesNew around target s v.store) :
      Delivery around content target editor opens s (.error f, v)
  | written {v : World} (holds : HoldsNote around target content s v.store)
      (closed : opens = true →
        ∃ x, x.store = v.store ∧ Editor.ExitsWith around target.toText editor 0 x v) :
      Delivery around content target editor opens s (.ok target, v)
  | unopened {f : Failure} {v : World} (holds : HoldsNote around target content s v.store)
      (wanted : opens = true) (kind : f.IsOfEditor)
      (failed : ∃ x, x.store = v.store ∧
        (Editor.openFile target.toText editor).perform around x = (.error f, v)) :
      Delivery around content target editor opens s (.error f, v)

section Delivery

variable {around : Surroundings} {content : Text} {target : Path} {editor : Option Text}
  {opens : Bool} {w : World}

theorem delivery_deliver (hclean : SparesCleanUp around) (content : Text) (target : Path)
    (editor : Option Text) (opens : Bool) (w : World) :
    Delivery around content target editor opens w.store
      ((deliver content target editor opens).perform around w) := by
  have hown := (silent_create content target false around w).2
  rw [deliver, perform_bind]
  rcases create_ends around w content target false with
    ⟨f, u, hf, -, hstore⟩ | ⟨landing, u, hok, hwritten⟩
  · rw [hf] at hown ⊢
    refine .stopped (hown f rfl) ?_
    rw [hstore hclean]
    exact onlyDirectoriesNew_prepared around target w.store
  · rw [hok]
    have hholds : ∀ v : World, v.store = u.store →
        HoldsNote around target content w.store v.store := fun v hv =>
      hv ▸ holdsNote_of_written hwritten
    cases opens with
    | false => exact .written (hholds u rfl) fun hno => (by cases hno)
    | true =>
        have hcalm := Editor.calm_openFile target.toText editor
        have hquiet := hcalm.quiet.store_eq around u
        have hkind := (hcalm.silent around u).2
        simp only [if_true, perform_bind]
        cases hopened : (Editor.openFile target.toText editor).perform around u with
        | mk result v =>
            rw [hopened] at hquiet hkind
            cases result with
            | error f =>
                exact .unopened (hholds v hquiet) rfl (hkind f rfl) ⟨u, hquiet.symm, hopened⟩
            | ok =>
                refine .written (hholds v hquiet) fun _ => ⟨u, hquiet.symm, ?_⟩
                exact Editor.exitsWith_of_openFile hopened

theorem silent_deliver (content : Text) (target : Path) (editor : Option Text) (opens : Bool) :
    Silent Failure.IsOwn (deliver content target editor opens) := by
  refine silent_bind (silent_create content target false) fun created => ?_
  have hopen := (Editor.calm_openFile created.toText editor).silent.mono fun _ h => h.isOwn
  split
  · exact silent_bind hopen fun _ => silent_pure _
  · exact silent_pure _

/-- The note of a template is prepared and delivered. -/
theorem perform_createNote_deliver (book : Notebook) (t : Template) (opens : Bool)
    (now : Option Moment) (around : Surroundings) (w : World) :
    (book.createNote t opens false now).perform around w =
      (book.prepare t now >>= fun note => deliver note.1 note.2
        (book.settings.resolvedEditor around.environment) opens).perform around w := by
  rw [createNote, perform_bind, perform_bind]
  cases (book.prepare t now).perform around w with
  | mk result v =>
      cases result with
      | error f => rfl
      | ok note =>
          obtain ⟨content, target⟩ := note
          cases opens with
          | true => rfl
          | false =>
              show (create content target false).perform around v = _
              simp only [deliver, perform_bind]
              cases (create content target false).perform around v with
              | mk result u => cases result <;> rfl

theorem reads_createNote {book : Notebook} (h : book.reader ≠ .script) (t : Template)
    (opens : Bool) (now : Option Moment) :
    Reads Failure.IsOwn (book.createNote t opens false now) := by
  have hrest (around : Surroundings) := reads_bind (reads_prepare h t now) fun note =>
    (silent_deliver note.1 note.2 (book.settings.resolvedEditor around.environment) opens).reads
  intro around w
  rw [perform_createNote_deliver]
  exact hrest around around w

/-- A new template is refused, or it is delivered into the directory of the templates. -/
theorem perform_scaffold_deliver (book : Notebook) (name : Text) (priority : Int)
    (category : Text) (opens : Bool) (around : Surroundings) (w : World) :
    (∃ f : Failure, f.IsOwn ∧
      (book.scaffold name priority category opens).perform around w = (.error f, w)) ∨
    ∃ directory, book.settings.templatesPath around.environment around.directory =
        .ok directory ∧
      (book.scaffold name priority category opens).perform around w =
        (deliver (starter name) (directory.child (Filename.assemble priority category name))
          (book.settings.resolvedEditor around.environment) opens).perform around w := by
  have hdirectory := book.settings.failsAs_templatesPath around.environment around.directory
  have hname := failsAs_newFilename name priority category
  rw [scaffold, perform_bind, perform_settle]
  cases hfilename : newFilename name priority category with
  | error f => exact Or.inl ⟨f, hname f hfilename, rfl⟩
  | ok filename =>
      obtain rfl := eq_assemble_of_newFilename hfilename
      simp only [perform_bind, templatesPath, perform_read, perform_settle]
      cases hpath : book.settings.templatesPath around.environment around.directory with
      | error f => exact Or.inl ⟨f, hdirectory f hpath, rfl⟩
      | ok directory =>
          refine Or.inr ⟨directory, rfl, ?_⟩
          dsimp only
          rw [deliver, perform_bind]
          cases (create (starter name)
              (directory.child (Filename.assemble priority category name)) false).perform
                around w with
          | mk result u =>
              cases result with
              | error f => rfl
              | ok created => cases opens <;> rfl

theorem silent_scaffold (book : Notebook) (name : Text) (priority : Int) (category : Text)
    (opens : Bool) : Silent Failure.IsOwn (book.scaffold name priority category opens) := by
  intro around w
  rcases book.perform_scaffold_deliver name priority category opens around w with
    ⟨f, hown, hf⟩ | ⟨directory, -, hdelivered⟩
  · rw [hf]
    exact ⟨rfl, failsAs_error hown⟩
  · rw [hdelivered]
    exact silent_deliver _ _ _ opens around w

theorem reads_delete {book : Notebook} (h : book.confirmer ≠ .script) (query : Text) :
    Reads Failure.IsOwn (book.delete query) := by
  refine reads_bind (book.calm_find query).converses.reads fun t => ?_
  refine reads_bind (book.calm_pathOf t).converses.reads fun path => ?_
  refine reads_bind (Reader.reads_ask h _) fun answer => ?_
  have hremove : Silent Failure.IsOwn (reporting .deleteFailed path (Disk.remove path.toText)) :=
    silent_reporting ((Disk.silent_remove _).mono fun _ h => h.isOwn) _ _
  split
  · exact reads_bind (silent_note _ _ _ _).reads fun _ => reads_pure _
  · refine reads_bind hremove.reads fun _ => ?_
    exact reads_bind (silent_note _ _ _ _).reads fun _ => reads_pure _

end Delivery

end Notebook

end NoteTemplates
