import NoteTemplates.Proofs.QuietOperations
import NoteTemplates.Proofs.Writing

/-!
# Operations that change files

An operation that writes is quiet until it writes one note, and quiet afterwards. That is so
for writing a note, with or without opening it, for the notes of templates, and for new
templates. Deleting a template is quiet until it takes one file away.
-/

namespace NoteTemplates

open Effect

/-- An effect that can end with one value only. -/
def EndsWith {α : Type} (x : α) (a : Effect α) : Prop :=
  ∀ around w y, (a.perform around w).1 = .ok y → y = x

theorem endsWith_pure {α : Type} (x : α) : EndsWith x (pure x) := by
  intro around w y hy
  rw [perform_pure] at hy
  cases hy
  rfl

theorem endsWith_bind {α β : Type} {x : β} {a : Effect α} {f : α → Effect β}
    (hf : ∀ y, EndsWith x (f y)) : EndsWith x (a >>= f) := by
  intro around w y hy
  rw [perform_bind] at hy
  split at hy
  · exact hf _ around _ y hy
  · cases hy

/--
An effect that is quiet but for one note that it may write; if it ends with a path, that is
the path of the note.
-/
def WritesOnce (a : Effect Path) : Prop :=
  ∀ around w,
    (∃ f v, a.perform around w = (.error f, v) ∧ v.history = w.history) ∨
    ∃ content target calledOff v, v.history = w.history ∧
      ((∃ f u,
          (Materialization.create content target calledOff).perform around v = (.error f, u) ∧
          a.perform around w = (.error f, u)) ∨
        ∃ u,
          (Materialization.create content target calledOff).perform around v = (.ok target, u) ∧
          (a.perform around w).2.history = u.history ∧
          ∀ p, (a.perform around w).1 = .ok p → p = target)

section WritesOnce

variable {α : Type} {a : Effect Path}

theorem writesOnce_create (content : Text) (target : Path) (calledOff : Bool) :
    WritesOnce (Materialization.create content target calledOff) := by
  intro around w
  right
  refine ⟨content, target, calledOff, w, rfl, ?_⟩
  rcases Materialization.create_cases around w content target calledOff with
    ⟨f, u, hf, -, -⟩ | ⟨landing, u, hok, -⟩
  · exact Or.inl ⟨f, u, hf, hf⟩
  · refine Or.inr ⟨u, hok, by rw [hok], ?_⟩
    intro p hp
    rw [hok] at hp
    cases hp
    rfl

theorem WritesOnce.after {b : Effect α} {f : α → Effect Path} (hb : Quiet b)
    (hf : ∀ x, WritesOnce (f x)) : WritesOnce (b >>= f) := by
  intro around w
  have hquiet := hb around w
  rw [perform_bind]
  cases hrun : b.perform around w with
  | mk result v =>
      rw [hrun] at hquiet
      cases result with
      | error e => exact Or.inl ⟨e, v, rfl, hquiet⟩
      | ok x =>
          rcases hf x around v with
            ⟨e, u, herr, hu⟩ | ⟨content, target, calledOff, u, hu, hrest⟩
          · exact Or.inl ⟨e, u, herr, hu.trans hquiet⟩
          · exact Or.inr ⟨content, target, calledOff, u, hu.trans hquiet, hrest⟩

theorem WritesOnce.followed {g : Path → Effect Path} (ha : WritesOnce a)
    (hquiet : ∀ p, Quiet (g p))
    (hpath : ∀ p, EndsWith p (g p)) :
    WritesOnce (a >>= g) := by
  intro around w
  rw [perform_bind]
  cases hrun : a.perform around w with
  | mk result v =>
      rcases ha around w with
        ⟨e, v', herr, hv⟩ | ⟨content, target, calledOff, v₀, hv₀, hcreate⟩
      · rw [hrun] at herr
        cases herr
        exact Or.inl ⟨e, v, rfl, hv⟩
      · right
        refine ⟨content, target, calledOff, v₀, hv₀, ?_⟩
        rcases hcreate with ⟨e, u, hcreate, herr⟩ | ⟨u, hcreate, hu, htarget⟩
        · rw [hrun] at herr
          cases herr
          exact Or.inl ⟨e, v, hcreate, rfl⟩
        · right
          rw [hrun] at hu htarget
          refine ⟨u, hcreate, ?_⟩
          cases result with
          | error e => exact ⟨hu, fun p hp => by cases hp⟩
          | ok p =>
              obtain rfl : p = target := htarget p rfl
              exact ⟨(hquiet p around v).trans hu, hpath p around v⟩

end WritesOnce

namespace Materialization

theorem writesOnce_createAndOpen (content : Text) (target : Path) (editor : Option Text)
    (calledOff : Bool) : WritesOnce (createAndOpen content target editor calledOff) := by
  refine (writesOnce_create content target calledOff).followed (fun p => ?_) fun p => ?_
  · exact quiet_bind (Editor.calm_openFile _ _).quiet fun _ => quiet_pure _
  · exact endsWith_bind fun _ => endsWith_pure p

end Materialization

namespace Notebook

variable (book : Notebook)

theorem writesOnce_createNote (t : Template) (openEditor calledOff : Bool)
    (now : Option Moment) : WritesOnce (book.createNote t openEditor calledOff now) := by
  refine WritesOnce.after (book.quiet_prepare t now) fun (content, target) => ?_
  dsimp only
  split
  · refine WritesOnce.after book.calm_editor.quiet fun editor => ?_
    exact Materialization.writesOnce_createAndOpen content target editor calledOff
  · exact writesOnce_create content target calledOff

theorem writesOnce_scaffold (name : Text) (priority : Int) (category : Text)
    (openEditor : Bool) : WritesOnce (book.scaffold name priority category openEditor) := by
  refine WritesOnce.after (quiet_settle _) fun filename => ?_
  refine WritesOnce.after book.calm_templatesPath.quiet fun directory => ?_
  refine (writesOnce_create _ _ _).followed (fun p => ?_) fun p => ?_
  · dsimp only
    split
    · refine quiet_bind book.calm_editor.quiet fun editor => ?_
      exact quiet_bind (Editor.calm_openFile _ _).quiet fun _ => quiet_pure _
    · exact quiet_pure _
  · dsimp only
    split
    · exact endsWith_bind fun _ => endsWith_bind fun _ => endsWith_pure p
    · exact endsWith_pure p

/-- A place to which the path of the file of the template that a query names leads. -/
def FileAt (around : Surroundings) (w : World) (query : Text) (p : Place) : Prop :=
  ∃ t directory e,
    ((book.find query).perform around w).1 = .ok t ∧
    book.settings.templatesPath around.environment around.directory = .ok directory ∧
    w.store.find around.base false (directory.child t.filename).toText = .ok (.found p e)

/-- Takes the file of a template away if that is confirmed; whether it did. -/
def removeAt (t : Template) (path : Path) : Effect Bool := do
  let answer ← book.confirmer.ask (deleteQuestion t)
  if !isYes answer then
    note .info .notebook "Template deletion declined" [("template", .text t.filename)]
    return false
  Materialization.reporting .deleteFailed path (Disk.remove path.toText)
  note .info .notebook "Template deleted" [("path", .text path.toText)]
  return true

variable {book}

/--
A removal fails and changes no file, or it is declined and changes no file, or it takes away
what the path leads to.
-/
theorem removeAt_ends (t : Template) (path : Path) (around : Surroundings) (w : World) :
    let run := (book.removeAt t path).perform around w
    (∃ f, run.1 = .error f ∧ run.2.history = w.history) ∨
    (∃ answer v, (book.confirmer.ask (deleteQuestion t)).perform around w = (.ok answer, v) ∧
      isYes answer = false ∧ run.1 = .ok false ∧ run.2.history = w.history ∧
      run.2.replies = v.replies) ∨
    ∃ p e, w.store.find around.base false path.toText = .ok (.found p e) ∧ e ≠ .directory ∧
      run.1 = .ok true ∧ run.2.store = w.store.erase p := by
  have hask := book.confirmer.quiet_ask (deleteQuestion t) around w
  rw [removeAt, perform_bind]
  cases hanswer : (book.confirmer.ask (deleteQuestion t)).perform around w with
  | mk result v =>
      rw [hanswer] at hask
      cases result with
      | error f => exact Or.inl ⟨f, rfl, hask⟩
      | ok answer =>
          cases hyes : isYes answer with
          | false =>
              simp only [hyes, Bool.not_false, if_true]
              exact Or.inr (Or.inl ⟨answer, v, rfl, hyes, rfl, hask, rfl⟩)
          | true =>
              simp only [hyes, Bool.not_true, Bool.false_eq_true, if_false, perform_bind,
                Materialization.perform_reporting]
              rcases Disk.remove_cases around v path.toText with
                ⟨f, hf⟩ | ⟨p, e, -, hlands, he, hremoved⟩
              · rw [hf]
                exact Or.inl ⟨_, rfl, hask⟩
              · rw [hremoved]
                rw [World.store_eq_of_history_eq hask] at hlands ⊢
                exact Or.inr (Or.inr ⟨p, e, hlands, he, rfl, rfl⟩)

/-- Deleting is looking a template up and removing its file. -/
theorem perform_delete_eq (query : Text) (around : Surroundings) (w : World) :
    (book.delete query).perform around w =
      (book.find query >>= fun t => book.pathOf t >>= fun path =>
        book.removeAt t path).perform around w := rfl

/--
A deletion fails and changes no file, or it is declined and changes no file, or it takes away
the file of the template that was looked up.
-/
theorem delete_ends (query : Text) (around : Surroundings) (w : World) :
    let run := (book.delete query).perform around w
    (∃ f, run.1 = .error f ∧ run.2.history = w.history) ∨
    (∃ t answer u v, (book.find query).perform around w = (.ok t, u) ∧
      (book.confirmer.ask (deleteQuestion t)).perform around u = (.ok answer, v) ∧
      isYes answer = false ∧ run.1 = .ok false ∧ run.2.history = w.history ∧
      run.2.replies = v.replies) ∨
    ∃ p, book.FileAt around w query p ∧ w.store.get? p ≠ some .directory ∧
      run.1 = .ok true ∧ run.2.store = w.store.erase p := by
  have hfind := (book.calm_find query).quiet around w
  rw [perform_delete_eq, perform_bind]
  cases hfound : (book.find query).perform around w with
  | mk result u =>
      rw [hfound] at hfind
      cases result with
      | error f => exact Or.inl ⟨f, rfl, hfind⟩
      | ok t =>
          simp only [pathOf, templatesPath, perform_bind, perform_read, perform_settle]
          cases hdirectory : book.settings.templatesPath around.environment around.directory with
          | error f => exact Or.inl ⟨f, rfl, hfind⟩
          | ok directory =>
              dsimp only [perform_pure]
              rcases removeAt_ends t (directory.child t.filename) around u with
                ⟨f, hf, hsame⟩ | ⟨answer, v, hanswer, hno, hfalse, hsame, hleft⟩ |
                ⟨p, e, hlands, he, htrue, hstore⟩
              · exact Or.inl ⟨f, hf, hsame.trans hfind⟩
              · exact Or.inr (Or.inl ⟨t, answer, u, v, rfl, hanswer, hno, hfalse,
                  hsame.trans hfind, hleft⟩)
              · rw [World.store_eq_of_history_eq hfind] at hlands hstore
                have hthere := Store.get?_of_find_found he hlands
                exact Or.inr (Or.inr ⟨p, ⟨t, directory, e, by rw [hfound], hdirectory, hlands⟩,
                  by simpa [hthere] using he, htrue, hstore⟩)

variable (book)

/-- A deletion changes no file, or takes away the file of the template that was looked up. -/
theorem delete_cases (query : Text) (around : Surroundings) (w : World) :
    ((book.delete query).perform around w).2.history = w.history ∨
      ∃ p v, book.FileAt around w query p ∧ w.store.get? p ≠ some .directory ∧
        (book.delete query).perform around w = (.ok true, v) ∧
        v.store = w.store.erase p := by
  rcases delete_ends query around w with
    ⟨f, -, hsame⟩ | ⟨t, answer, u, v, -, -, -, -, hsame, -⟩ | ⟨p, hat, hdir, htrue, hstore⟩
  · exact Or.inl hsame
  · exact Or.inl hsame
  · exact Or.inr ⟨p, _, hat, hdir, Prod.ext htrue rfl, hstore⟩

end Notebook

end NoteTemplates
