import NoteTemplates.Proofs.Deletions
import NoteTemplates.Proofs.Rounds
import NoteTemplates.Proofs.Verbatim

/-!
# Questions as they are shown

A question is read as a text with tags before it is shown. If it cannot be read, nothing is
shown and no reply is taken. Else the run is the same for every question: what is heard depends
on the replies alone, and each round shows what became of the question. That is the question as
it is if and only if it is a text that the console shows as it is, the screen has no picture
for a name in it, and its lines fit. The words around the full name of a template that is to be
deleted are such a text, so the whole question is one if nothing is done about the name.
-/

namespace NoteTemplates

open Effect

namespace Console

/-- A question as it is, with what stands between it and its answer. -/
def literal (question : Text) : Text :=
  Text.expandTabs (question ++ questionEnd)

/-- A question that a console shows as it is on a screen. -/
structure ShowsAsIs (screen : Screen) (question : Text) : Prop where
  verbatim : Markup.IsVerbatim question
  unpictured : screen.pictures question = question
  fits : ∀ line ∈ Text.lines (literal question), Text.fits screen.columns line = true

/-- Asking, with something shown in each round: how it ends, and the world it leaves. -/
def talked {α : Type} (shown notice : Text) (judge : Text → Except Failure (Option α))
    (w : World) : Except Failure α × World :=
  let heard := hear judge w.replies
  (heard.result, w.after heard.left (rounds shown notice heard.refused))

/-- The run of asking, by what becomes of the question: it fails at once, or something is shown. -/
def outcome {α : Type} (notice : Text) (judge : Text → Except Failure (Option α)) (w : World) :
    Except Failure Text → Except Failure α × World
  | .error f => (.error f, w)
  | .ok shown => talked shown notice judge w

/-- Takes every line. -/
def judgeLine (answer : Text) : Except Failure (Option Text) :=
  .ok (some answer)

section Showing

variable {screen : Screen} {q : Text} {α : Type} {shown notice : Text}
  {judge : Text → Except Failure (Option α)}

theorem weight_literal (q : Text) : Markup.weight (literal q) = Markup.weight q := by
  rw [literal, Markup.weight_expandTabs, Markup.weight_append]
  exact congrArg (Markup.weight q + ·) (by decide : Markup.weight questionEnd = 0)

/-- Every question is shown with a colon. -/
theorem countP_colon_literal (q : Text) :
    (literal q).countP (· = ':') = q.countP (· = ':') + 1 := by
  rw [literal, Text.countP_expandTabs (by decide) (by decide) (by decide), List.countP_append]
  rfl

theorem literal_ne_nil (q : Text) : literal q ≠ [] := by
  intro hnil
  have hcolon := countP_colon_literal q
  rw [hnil] at hcolon
  simp at hcolon

/-- What has the weight and the colons of a question on the screen has no less of them before. -/
theorem weight_le_of_layOut {s : Text} (h : screen.layOut (s ++ questionEnd) = literal q) :
    Markup.weight q ≤ Markup.weight s ∧ q.countP (· = ':') ≤ s.countP (· = ':') := by
  constructor
  · have hless := Markup.weight_layOut_le screen (s ++ questionEnd)
    rw [h, weight_literal, Markup.weight_append] at hless
    exact hless
  · have hless : (screen.layOut (s ++ questionEnd)).countP (· = ':') ≤
        (s ++ questionEnd).countP (· = ':') :=
      Screen.countP_layOut_le (by decide) (by decide) (by decide) _
    rw [h, countP_colon_literal, List.countP_append] at hless
    exact Nat.le_of_succ_le_succ hless

/-- What is shown of a question that can be read. -/
theorem question_eq_ok {shown : Text} (h : question screen q = .ok shown) :
    ∃ s, Markup.plain screen q = .ok s ∧ screen.layOut (s ++ questionEnd) = shown := by
  rw [question] at h
  cases hs : Markup.plain screen q with
  | error f =>
      rw [hs] at h
      cases h
  | ok s =>
      rw [hs] at h
      exact ⟨s, rfl, Except.ok.inj h⟩

/-- The shown question has all its weight and its colons only if nothing was done about it. -/
theorem question_eq_literal_iff :
    question screen q = .ok (literal q) ↔ ShowsAsIs screen q := by
  have hplain (hverbatim : Markup.IsVerbatim q) (hpictures : screen.pictures q = q) :
      question screen q = .ok (screen.layOut (q ++ questionEnd)) := by
    rw [question, Markup.plain_of_isVerbatim hverbatim, Markup.drawn, hpictures,
      Markup.visible_of_kept hverbatim.kept]
    rfl
  constructor
  · intro h
    obtain ⟨s, hs, heq⟩ := question_eq_ok h
    -- laying out only takes weight and colons away, so they were all there before
    obtain ⟨hweight, hcolons⟩ := weight_le_of_layOut heq
    obtain ⟨hverbatim, hpictures⟩ := Markup.isVerbatim_of_weight hs hweight hcolons
    rw [hplain hverbatim hpictures] at h
    exact ⟨hverbatim, hpictures, Screen.layOut_eq_expandTabs_iff.mp (Except.ok.inj h)⟩
  · intro h
    rw [hplain h.verbatim h.unpictured]
    exact congrArg Except.ok (Screen.layOut_eq_expandTabs_iff.mpr h.fits)

theorem talked_injective {s t : Text} {w : World}
    (h : talked s notice judge w = talked t notice judge w) : s = t :=
  eq_of_rounds_eq
    (List.append_cancel_left (congrArg (fun outcome => outcome.2.printed) h))

theorem talked_ne_error {f : Failure} {w : World} (hshown : shown ≠ []) :
    talked shown notice judge w ≠ (.error f, w) := by
  intro h
  have hprinted : w.printed ++ rounds shown notice (hear judge w.replies).refused = w.printed :=
    congrArg (fun outcome => outcome.2.printed) h
  have hnil := List.append_right_eq_self.mp hprinted
  cases hrefused : (hear judge w.replies).refused with
  | zero =>
      rw [hrefused] at hnil
      exact hshown hnil
  | succ n =>
      rw [hrefused, rounds, List.append_assoc] at hnil
      exact hshown (List.append_eq_nil_iff.mp hnil).1

/-- The run of a question: it fails before anything is shown, or talks with what is shown. -/
theorem perform_asking_eq_outcome (q : Text) (notice : Screen → Text)
    (judge : Text → Except Failure (Option α)) (around : Surroundings) (w : World) :
    (do
      let screen := (← read).screen
      askUntil (← settle (question screen q)) (notice screen) judge (← get).replies :
      Effect α).perform around w =
      outcome (notice around.screen) judge w (question around.screen q) := by
  rw [perform_asking]
  cases question around.screen q with
  | error f => rfl
  | ok shown => exact perform_askUntil shown (notice around.screen) judge around w

/-- A run talks with the question as it is if and only if that is how the question is shown. -/
theorem outcome_eq_talked_literal_iff {w : World} :
    outcome notice judge w (question screen q) = talked (literal q) notice judge w ↔
      ShowsAsIs screen q := by
  rw [← question_eq_literal_iff]
  cases hquestion : question screen q with
  | error f =>
      refine iff_of_false (fun h => talked_ne_error (literal_ne_nil q) h.symm) ?_
      rintro ⟨⟩
  | ok shown =>
      exact ⟨fun h => congrArg Except.ok (talked_injective h),
        fun h => congrArg (talked · notice judge w) (Except.ok.inj h)⟩

end Showing

end Console

namespace Notebook

variable (book : Notebook) {around : Surroundings} {w v : World} {query : Text} {t : Template}
  {catalog : List Template} {warnings : List Text}

/-- What a deletion says is what its question says. -/
theorem talk_removeAt (t : Template) (path : Path) (around : Surroundings) (w : World) :
    ((book.removeAt t path).perform around w).2.talk =
      ((book.confirmer.ask (deleteQuestion t)).perform around w).2.talk := by
  have hremove : Silent Failure.IsOwn
      (Materialization.reporting .deleteFailed path (Disk.remove path.toText)) :=
    Materialization.silent_reporting ((Disk.silent_remove _).mono fun _ h => h.isOwn) _ _
  rw [removeAt, perform_bind]
  cases (book.confirmer.ask (deleteQuestion t)).perform around w with
  | mk result v =>
      cases result with
      | error f => rfl
      | ok answer =>
          dsimp only
          split
          · rfl
          · refine (silent_bind hremove fun _ => ?_) around v |>.1
            exact silent_bind (silent_note _ _ _ _) fun _ => silent_pure _

/-- What is shown when a template is to be deleted. -/
theorem printed_delete (hconfirmer : book.confirmer = .line)
    (hload : (book.load.perform around w).1 = .ok (catalog, warnings))
    (hfind : Catalog.find catalog query = .ok t) :
    ((book.delete query).perform around w).2.printed =
      match Console.question around.screen (deleteQuestion t) with
      | .error _ => w.printed
      | .ok shown => w.printed ++ shown := by
  obtain ⟨v, hrun, htalk, -⟩ := book.calm_load.of_fst_eq_ok hload
  obtain ⟨path, hpath⟩ :
      ∃ path, book.settings.templatesPath around.environment around.directory = .ok path := by
    cases hpath : book.settings.templatesPath around.environment around.directory with
    | error f =>
        have hfails : book.load.perform around w = _ := Catalog.perform_load_of_error hpath
        rw [hrun] at hfails
        cases hfails
    | ok path => exact ⟨path, rfl⟩
  have hprinted : v.printed = w.printed := congrArg (fun talk => talk.2.2.1) htalk
  rw [book.perform_delete hrun hfind hpath]
  refine (congrArg (fun talk => talk.2.2.1) (book.talk_removeAt t _ around v)).trans ?_
  rw [hconfirmer, ← hprinted, Reader.ask, Console.perform_askLine_once]
  cases Console.question around.screen (deleteQuestion t) <;> rfl

/-- The name is all of the question that a console without pictures may do anything about. -/
theorem isVerbatim_deleteQuestion :
    Markup.IsVerbatim (deleteQuestion t) ↔ Markup.IsVerbatim t.displayName := by
  have hbefore : Markup.weight "Delete template '" = 0 := by decide +kernel
  have hbehind : Markup.weight "'? (y/N)" = 0 := by decide +kernel
  exact (Markup.isVerbatim_append_right hbehind (by decide +kernel)).trans
    (Markup.isVerbatim_append_left hbefore)

end Notebook

section Data

open Console Notebook

/-- A template whose category and name make a tag together. -/
def bracketed : Template :=
  { filename := "1-[b-c]x.md", priority := 1, category := "[b", name := "c]x", body := "hi" }

/-- A directory with its file; a no is replied. -/
def bracketedWorld : World :=
  { store :=
      { entries :=
          [(["t"], .directory), (["t", "1-[b-c]x.md"], .file 0o644 (Utf8.encode "hi"))] }
    replies := [.line "n"] }

def bracketedBook : Notebook :=
  { settings := { templates := some (Path.ofText "/t") } }

theorem load_bracketed :
    (bracketedBook.load.perform .plain bracketedWorld).1 = .ok ([bracketed], []) := by
  have hpath : bracketedBook.settings.templatesPath Surroundings.plain.environment
      Surroundings.plain.directory = .ok (Path.ofText "/t") := by decide +kernel
  have hlist : (Disk.list (Path.ofText "/t").toText).perform .plain bracketedWorld =
      (.ok (bracketedWorld.store.children ["t"]), bracketedWorld) := by decide +kernel
  have hlinks : ∀ entry ∈ bracketedWorld.store.children ["t"], entry.2.isLink = false := by
    decide +kernel
  have hnames : (Catalog.fileNames (bracketedWorld.store.children ["t"])).mergeSort Text.le =
      [bracketed.filename] := by
    have hfiles : Catalog.fileNames (bracketedWorld.store.children ["t"]) =
        [bracketed.filename] := by
      decide +kernel
    rw [hfiles]
    exact List.mergeSort_singleton _
  have hread : (Catalog.readTemplates (Path.ofText "/t").toText
      [bracketed.filename]).perform .plain bracketedWorld =
      (.ok ([bracketed], []), bracketedWorld) := by decide +kernel
  exact Catalog.load_of_files hpath hlist hlinks hnames hread (by simp)

end Data

end NoteTemplates
