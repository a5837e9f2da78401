import NoteTemplates.Proofs.Exchanges
import NoteTemplates.Proofs.Neighbours
import NoteTemplates.Proofs.Trees

/-!
# Deleting what was confirmed

Deleting a template asks one question, about the first template that the query names, and
takes the file of that template away if the answer is a yes and the file system does not
refuse. In every other case the file system is as it was. In a directory without links the
catalog that is loaded afterwards is the one from before without that template.
-/

namespace NoteTemplates

open Effect

namespace Store

variable {s : Store} {base place p : Place} {extra : Text} {e : Entry}

/-- A file system stays one if an entry is taken away that is no directory. -/
theorem IsSound.erase (h : s.IsSound) (hdir : s.get? p ≠ some .directory) :
    (s.erase p).IsSound := by
  have hsub : List.Sublist (s.erase p).entries s.entries := List.filter_sublist
  exact ⟨h.tree.erase hdir, h.single.sublist (hsub.map _),
    fun entry hmem => h.noNul entry (hsub.subset hmem)⟩

/-- A path leads to a directory with and without a file in it. -/
theorem find_erase_file {mode : Nat} {bytes : Bytes} {path : Text}
    (hfile : s.get? (place ++ [extra]) = some (.file mode bytes))
    (h : s.find base true path = .ok (.found place .directory)) :
    (s.erase (place ++ [extra])).find base true path = .ok (.found place .directory) := by
  refine find_found_of_keeps (fun q f hq hway => ?_) (fun f hf => ?_) h
  · have hne : q ≠ place ++ [extra] := by
      rintro rfl
      rw [hfile] at hq
      cases hq
      cases hway
    rwa [get?_erase_of_ne s hne]
  · rwa [get?_erase_of_ne s (by simp)]

/-- The file system without an entry of a directory without links has that as one more entry. -/
theorem hasExtra_erase
    (hlinks : ∀ name target, (name, Entry.link target) ∉ s.children place) :
    (s.erase (place ++ [extra])).HasExtra s place extra := by
  refine hasExtra_of_no_links (get?_erase_self s _) (fun q hq => (get?_erase_of_ne s hq).symm)
    fun name target hmem => ?_
  have hentry := mem_children.mp hmem
  exact hlinks name target (mem_children.mpr (List.mem_of_mem_filter hentry))

end Store

namespace Notebook

variable (book : Notebook) {around : Surroundings} {w : World} {query : Text} {t : Template}
  {path : Path} {place : Place} {outcome : Except Failure Bool × World}

/-- After the one question nothing more is said. -/
theorem Removal.talk_eq (h : Removal book around t path place w outcome) :
    outcome.2.talk = ((book.confirmer.ask (deleteQuestion t)).perform around w).2.talk := by
  cases h with
  | unanswered asked => rw [asked]
  | declined asked no =>
      rw [asked]
      rfl
  | refused asked yes failed => rw [asked]
  | removed asked yes succeeded =>
      rw [asked]
      rfl

/-- Whether an answer is a yes: a `y` with nothing but white space around it. -/
theorem isYes_iff {answer : Text} :
    isYes answer = true ↔ Text.strip answer = "y" ∨ Text.strip answer = "Y" := by
  simp [isYes]

/-- Without an answer there is no deletion, for the reason for which there is no answer. -/
theorem Removal.fst_eq_of_error (h : Removal book around t path place w outcome) (f : Failure)
    (hasked : ((book.confirmer.ask (deleteQuestion t)).perform around w).1 = .error f) :
    outcome.1 = .error f := by
  cases h with
  | unanswered asked =>
      rw [asked] at hasked
      exact congrArg Except.error (Except.error.inj hasked)
  | declined asked no =>
      rw [asked] at hasked
      cases hasked
  | refused asked yes failed =>
      rw [asked] at hasked
      cases hasked
  | removed asked yes succeeded =>
      rw [asked] at hasked
      cases hasked

/--
At the console the question is shown once and one reply is taken; a question that cannot be
shown ends the deletion.
-/
theorem Removal.asked_line (h : Removal book around t path place w outcome)
    (hline : book.confirmer = .line) :
    match Console.question around.screen (deleteQuestion t) with
    | .error f =>
        outcome.1 = .error f ∧ outcome.2.replies = w.replies ∧ outcome.2.printed = w.printed
    | .ok shown =>
        ((book.confirmer.ask (deleteQuestion t)).perform around w).1 =
            Console.heardOnce w.replies ∧
          outcome.2.replies = w.replies.tail ∧ outcome.2.printed = w.printed ++ shown := by
  have htalk := h.talk_eq
  have hends := h.fst_eq_of_error
  rw [hline, Reader.ask, Console.perform_askLine_once] at htalk hends ⊢
  have hreplies := congrArg (fun talk => talk.1) htalk
  have hprinted := congrArg (fun talk => talk.2.2.1) htalk
  cases hshown : Console.question around.screen (deleteQuestion t) with
  | error f =>
      rw [hshown] at hreplies hprinted hends
      exact ⟨hends f rfl, hreplies, hprinted⟩
  | ok shown =>
      rw [hshown] at hreplies hprinted
      exact ⟨rfl, hreplies, hprinted⟩

/-- A template is deleted if and only if that is confirmed and the removal succeeds. -/
theorem Removal.ok_true_iff (h : Removal book around t path place w outcome) :
    let asked := (book.confirmer.ask (deleteQuestion t)).perform around w
    outcome.1 = .ok true ↔
      (∃ answer, asked.1 = .ok answer ∧ isYes answer = true) ∧
        ((Disk.remove path.toText).perform around asked.2).1 = .ok () := by
  intro asked
  cases h with
  | unanswered hasked =>
      have hasked : asked = _ := hasked
      simp [hasked]
  | declined hasked no =>
      have hasked : asked = _ := hasked
      simp [hasked, no]
  | refused hasked yes failed =>
      have hasked : asked = _ := hasked
      simp [hasked, failed]
  | removed hasked yes succeeded =>
      have hasked : asked = _ := hasked
      simp [hasked, yes, succeeded]

theorem asked_askScript (question : Text) (around : Surroundings) (w : World) :
    ((Reader.askScript question).perform around w).2.asked = w.asked ++ [question] := by
  obtain ⟨store, trail, replies, asked, started, printed, complaints, events, sample⟩ := w
  cases replies with
  | nil => rfl
  | cons reply replies =>
      cases reply with
      | failure f => rfl
      | line s => rfl

/-- What is loaded after the file of a template was taken away from a directory without links. -/
theorem load_erase {v : World} {before after : List Template} {warnings : List Text}
    (hsound : w.store.IsSound)
    (hload : (book.load.perform around w).1 = .ok (before ++ t :: after, warnings))
    (hpath : book.settings.templatesPath around.environment around.directory = .ok path)
    (hfound : w.store.find around.base true path.toText = .ok (.found place .directory))
    (hlinks : ∀ name target, (name, Entry.link target) ∉ w.store.children place)
    (hv : v.store = w.store.erase (place ++ [t.filename])) :
    (book.load.perform around v).1 = .ok (before ++ after, warnings) := by
  rcases Catalog.load_ends hsound book.settings around with
    ⟨f, events, hrun⟩ | ⟨catalog, warnings', events, path', hrun, hpath', hcatalog⟩
  · have hrun : book.load.perform around w = _ := hrun
    rw [hrun] at hload
    cases hload
  · have hrun : book.load.perform around w = _ := hrun
    rw [hrun] at hload
    rw [hpath'] at hpath
    cases hload
    cases hpath
    rcases hcatalog with hnil | ⟨place', hfound', ⟨entries, hentries⟩, hof⟩
    · simp at hnil
    rw [hfound'] at hfound
    cases hfound
    have hin := hof.files t (by simp)
    obtain ⟨e, hdirectory, hget, hleads⟩ := hin.leads
    obtain ⟨mode, bytes, rfl⟩ : ∃ mode bytes, e = .file mode bytes := by
      cases e with
      | file mode bytes => exact ⟨mode, bytes, rfl⟩
      | directory => exact absurd rfl hdirectory
      | link target =>
          exact absurd (hsound.mem_children.mpr hget) (hlinks t.filename target)
    have hfewer : v.store.IsSound := hv ▸ hsound.erase (by simp [hget])
    have hfound'' : v.store.find around.base true path.toText =
        .ok (.found place .directory) := by
      rw [hv]
      exact Store.find_erase_file hget hfound'
    have hlist : ∃ entries, ((Disk.list path.toText).perform around v).1 = .ok entries := by
      rw [(Disk.list_ok hentries).2, Disk.listing, hfound'']
      exact ⟨_, rfl⟩
    obtain ⟨before', after', warnings', hfewerLoad, hload, hranks⟩ :=
      Catalog.load_of_extra hfewer hsound (hv ▸ Store.hasExtra_erase hlinks) hpath' hfound''
        hlist hlinks hin.candidate hin.read
    have hload : (book.load.perform around w).1 = _ := hload
    rw [hrun] at hload
    obtain ⟨hcatalog, rfl⟩ : before ++ t :: after = before' ++ t :: after' ∧
        warnings = warnings' := by simpa using hload
    obtain ⟨rfl, rfl⟩ := hof.ranked.append_cons_inj hcatalog
    exact hfewerLoad

/-- Where no template is found, nothing is asked. -/
theorem perform_delete_of_error {f : Failure} {v : World}
    (h : (book.find query).perform around w = (.error f, v)) :
    (book.delete query).perform around w = (.error f, v) := by
  rw [delete, perform_bind, h]

/-- A removal that was asked for succeeds if no removal is made to fail. -/
theorem remove_of_isIn {v : World} (hspares : around.Spares .remove)
    (hin : t.IsIn around w.store path place) (hv : v.store = w.store) :
    ((Disk.remove (path.child t.filename).toText).perform around v).1 = .ok () := by
  obtain ⟨e, hdirectory, -, hleads⟩ := hin.leads
  rw [Disk.remove_of_found (Disk.checkFault_of_spares hspares _) hin.whole hdirectory
    (by rw [hv, hleads])]

/--
Deleting removes what was confirmed. If nothing can be loaded, or no template has the query
among its keys, nothing is said and the file system is as it was. Else there is one question,
about the first template that has it. At the console the question is shown once and one line is
read, if one is left; a question that cannot be shown ends the run, and no line is read.
That the template was deleted is answered if and only if the reply is a `y` but for white space
and the removal succeeds, as it does unless it is made to fail. Then the entry in the directory
of the templates under the name of the file is gone, and nothing else; in every other case the
file system is as it was. In a directory without links the same catalog without the template is
loaded afterwards, with the same warnings.
-/
theorem delete_confirmed (query : Text) (around : Surroundings) {w : World}
    (hsound : w.store.IsSound) :
    let run := (book.delete query).perform around w
    match (book.load.perform around w).1 with
    | .error f => run.1 = .error f ∧ run.2.talk = w.talk ∧ run.2.store = w.store
    | .ok (catalog, warnings) =>
        ((∀ t ∈ catalog, query ∉ t.keys) →
          run.1 = .error (.template { kind := .templateNotFound, detail := query }) ∧
          run.2.talk = w.talk ∧ run.2.store = w.store) ∧
        ∀ before t after, catalog = before ++ t :: after → query ∈ t.keys →
          (∀ u ∈ before, query ∉ u.keys) →
          ∃ path place events,
            book.settings.templatesPath around.environment around.directory = .ok path ∧
            w.store.find around.base true path.toText = .ok (.found place .directory) ∧
            let asked := (book.confirmer.ask (deleteQuestion t)).perform around { w with events }
            let removal := (Disk.remove (path.child t.filename).toText).perform around asked.2
            Removal book around t (path.child t.filename) (place ++ [t.filename])
              { w with events } run ∧
            run.2.talk = asked.2.talk ∧
            (book.confirmer = .script → run.2.asked = w.asked ++ [deleteQuestion t]) ∧
            (book.confirmer = .line →
              match Console.question around.screen (deleteQuestion t) with
              | .error f =>
                  run.1 = .error f ∧ run.2.replies = w.replies ∧ run.2.printed = w.printed
              | .ok shown =>
                  asked.1 = Console.heardOnce w.replies ∧ run.2.replies = w.replies.tail ∧
                    run.2.printed = w.printed ++ shown) ∧
            (run.1 = .ok true ↔
              (∃ answer, asked.1 = .ok answer ∧
                (Text.strip answer = "y" ∨ Text.strip answer = "Y")) ∧ removal.1 = .ok ()) ∧
            (around.Spares .remove → removal.1 = .ok ()) ∧
            run.2.store =
              (if run.1 = .ok true then w.store.erase (place ++ [t.filename]) else w.store) ∧
            (run.1 = .ok true →
              (∀ name target, (name, Entry.link target) ∉ w.store.children place) →
              (book.load.perform around run.2).1 = .ok (before ++ after, warnings)) := by
  intro run
  rcases Catalog.load_ends hsound book.settings around with
    ⟨f, events, hload⟩ | ⟨catalog, warnings, events, path, hload, hpath, hcatalog⟩
  · have hload : book.load.perform around w = _ := hload
    have hfind : (book.find query).perform around w = (.error f, { w with events }) := by
      rw [find, perform_bind, hload]
    have hrun : run = _ := book.perform_delete_of_error hfind
    rw [hload, hrun]
    exact ⟨rfl, rfl, rfl⟩
  · have hload : book.load.perform around w = _ := hload
    rw [hload]
    refine ⟨fun hno => ?_, ?_⟩
    · have hfind : (book.find query).perform around w =
          (.error (.template { kind := .templateNotFound, detail := query }),
            { w with events }) := by
        rw [book.perform_find hload, Catalog.find_of_notMem hno]
        rfl
      have hrun : run = _ := book.perform_delete_of_error hfind
      rw [hrun]
      exact ⟨rfl, rfl, rfl⟩
    · rintro before t after rfl hquery hbefore
      rcases hcatalog with hnil | ⟨place, hfound, -, hof⟩
      · simp at hnil
      have hin := hof.files t (by simp)
      obtain ⟨e, hdirectory, -, hleads⟩ := hin.leads
      have hremoval : Removal book around t (path.child t.filename) (place ++ [t.filename])
          { w with events } run := by
        have hfind := Catalog.find_eq_ok.mpr ⟨before, after, rfl, hquery, hbefore⟩
        have hrun : run = _ := book.perform_delete hload hfind hpath
        rw [hrun]
        exact book.removeAt_outcome hleads
      have hstore : run.2.store = if run.1 = .ok true then
          w.store.erase (place ++ [t.filename]) else w.store := hremoval.store_eq
      refine ⟨path, place, events, hpath, hfound, hremoval, hremoval.talk_eq, fun hscript => ?_,
        hremoval.asked_line, ?_, fun hspares => ?_, hstore, fun hdone hlinks => ?_⟩
      · have hasked := congrArg (fun talk => talk.2.1) hremoval.talk_eq
        rw [hscript] at hasked
        exact hasked.trans (asked_askScript _ around _)
      · simpa only [isYes_iff] using hremoval.ok_true_iff
      · exact remove_of_isIn hspares hin
          ((book.confirmer.quiet_ask (deleteQuestion t)).store_eq around _)
      · rw [if_pos hdone] at hstore
        exact book.load_erase hsound (by rw [hload]) hpath hfound hlinks hstore

theorem delete_confirmed_masked :
    let run := (maskedBook.delete "y").perform .plain maskedWorld
    maskedWorld.store.IsSound ∧ run.1 = .ok true ∧
      run.2.asked = ["Delete template 'x/y'? (y/N)".toList] ∧
      run.2.store = maskedWorld.store.erase ["t", "5-x-y.md"] ∧
      (maskedBook.load.perform .plain run.2).1 = .ok ([masking], []) := by
  intro run
  have hdelete := delete_confirmed maskedBook "y" .plain isSound_masked
  rw [load_masked] at hdelete
  obtain ⟨path, place, events, hpath, hfound, -, -, hasked, -, hiff, hspares, hstore, hload⟩ :=
    hdelete.2 [masking] masked [] rfl (by decide) (by decide)
  rw [templatesPath_masked] at hpath
  cases hpath
  rw [find_masked] at hfound
  cases hfound
  have hrun : run.1 = .ok true :=
    hiff.mpr ⟨⟨" y", rfl, by decide⟩, hspares (Surroundings.spares_plain .remove)⟩
  have hlinks : ∀ entry ∈ maskedWorld.store.children ["t"], entry.2.isLink = false := by
    decide +kernel
  refine ⟨isSound_masked, hrun, hasked rfl, ?_, hload hrun fun name target hmem => ?_⟩
  · exact hstore.trans (if_pos hrun)
  · cases hlinks _ hmem

end Notebook
end NoteTemplates
