import NoteTemplates.Proofs.Deliveries
import NoteTemplates.Proofs.LogFile

/-!
# What a status says about the file system

A command ends with a status. This module says what each status means: who got it knows what
happened to the files.

* 130: somebody broke off at a read, and the file system is as it was.
* 0 after a note or a new template was asked for: the menu was left with a blank line and
  nothing changed, or the whole file was written, and the editor, if it was wanted, ended
  with status zero. The path of the target leads to that file unless it is in its own way.
* 0 after a deletion was asked for: the entry that was looked up is gone, or the answer was no
  and nothing changed.
* 1: at most directories on the way to the target are new, or the whole file was written and
  the editor failed.

The file system is compared with the one in which the file of the log is open.
-/

namespace NoteTemplates

open Effect Console CommandLine

/-- A failure that the program reports, with status one. -/
def Failure.IsReported : Failure → Prop
  | .template _ | .editor _ => True
  | _ => False

namespace Program

variable {book : Notebook} {around : Surroundings} {u v w : World}

section Conversing

theorem converses_printWarnings (warnings : List Text) : Converses (printWarnings warnings) := by
  induction warnings with
  | nil => exact converses_pure _
  | cons warning warnings ih => exact converses_bind (converses_complainLine _) fun _ => ih

theorem converses_printNumbered (number : Nat) (templates : List Template) :
    Converses (printNumbered number templates) := by
  induction templates generalizing number with
  | nil => exact converses_pure _
  | cons t templates ih => exact converses_bind (converses_printLine _) fun _ => ih _

theorem converses_printGroups (number : Nat) (groups : List (Text × List Template)) :
    Converses (printGroups number groups) := by
  induction groups generalizing number with
  | nil => exact converses_pure _
  | cons group groups ih =>
      obtain ⟨category, members⟩ := group
      refine converses_bind (converses_printLine _) fun _ => ?_
      exact converses_bind (converses_printNumbered number members) fun _ => ih _

theorem converses_printCatalog (templates : List Template) :
    Converses (printCatalog templates) :=
  converses_bind (converses_printGroups _ _) fun _ => converses_pure _

theorem converses_emptyNotice : Converses (emptyNotice book) :=
  (calm_bind book.calm_templatesPath fun _ => calm_pure _).converses

theorem converses_list : Converses (list book) := by
  refine converses_bind book.calm_load.converses fun (templates, warnings) => ?_
  refine converses_bind (converses_printWarnings warnings) fun _ => ?_
  split
  · refine converses_bind converses_emptyNotice fun notice => ?_
    exact converses_bind (converses_printLine notice) fun _ => converses_pure _
  · refine converses_bind (converses_printLine _) fun _ => ?_
    exact converses_bind (converses_discard (converses_printCatalog templates)) fun _ =>
      converses_pure _

theorem converses_choose (templates : List Template) (name : Option Text) :
    Converses (choose templates name) := by
  unfold choose
  split
  · refine converses_bind (calm_settle (failsAs_mapError fun _ => id)).converses fun t => ?_
    exact converses_pure _
  · refine converses_bind (converses_printCatalog templates) fun ordered => ?_
    refine converses_bind (converses_askChoice _ _ _) fun n => ?_
    split <;> exact converses_pure _

theorem converses_edit (name : Text) : Converses (edit book name) :=
  (calm_bind (calm_discard (book.calm_edit name)) fun _ => calm_pure _).converses

end Conversing

section Reading

/-- A line that is passed over makes no choice. -/
theorem passOver_ne_some (low high : Int) (choice : Option Int) :
    passOver low high ≠ .ok (some choice) := by
  intro h
  unfold passOver at h
  split at h <;> cases h

/-- A choice that a line makes is within the bounds, and only a blank line makes none. -/
theorem judgeChoice_cases {low high : Int} {answer : Text} {choice : Option Int}
    (h : judgeChoice low high answer = .ok (some choice)) :
    (choice = none ∧ answer = []) ∨ ∃ n, choice = some n ∧ low ≤ n ∧ n ≤ high := by
  unfold judgeChoice at h
  split at h
  · rename_i hempty
    cases h
    exact Or.inl ⟨rfl, List.isEmpty_iff.mp hempty⟩
  · split at h
    · cases hread : Text.readInt answer with
      | error e =>
          rw [hread] at h
          cases h
      | ok n =>
          rw [hread] at h
          dsimp only at h
          split at h
          · rename_i hbounds
            cases h
            exact Or.inr ⟨n, rfl, hbounds⟩
          · exact absurd h (passOver_ne_some low high choice)
    · exact absurd h (passOver_ne_some low high choice)

/-- How a menu is left: with a number that is in it, or with a blank line. -/
theorem askChoice_ok {s : Text} {low high : Int} {choice : Option Int}
    (h : (askChoice s low high).perform around w = (.ok choice, v)) :
    (choice = none ∧ ∃ lines line,
      w.replies = List.map Reply.line lines ++ .line line :: v.replies ∧
        Text.strip line = []) ∨ ∃ n, choice = some n ∧ low ≤ n ∧ n ≤ high := by
  rw [askChoice, perform_bind_ok _ _ (perform_read around w)] at h
  obtain ⟨shown, x, hquestion, hasked⟩ := ok_of_bind h
  rw [(settle_ok hquestion).2, perform_bind_ok _ _ (perform_get around w)] at hasked
  have hcases := askUntil_cases shown (around.screen.layOut (choiceNotice low high))
    (judgeChoice low high) around w
  rw [hasked] at hcases
  rcases hcases with ⟨lines, line, a, hlines, hjudge, ha⟩ | ⟨_, _, f, -, -, hf⟩ |
    ⟨_, _, f, -, -, hf⟩
  · cases ha
    rcases judgeChoice_cases hjudge with ⟨hnone, hblank⟩ | hsome
    · exact Or.inl ⟨hnone, lines, line, hlines, hblank⟩
    · exact Or.inr hsome
  · cases hf
  · cases hf

/-- The answer to a question that is asked once is the next line. -/
theorem askLine_ok {question answer : Text}
    (h : (askLine question).perform around w = (.ok answer, v)) :
    ∃ line, w.replies = .line line :: v.replies ∧ answer = Text.strip line := by
  rw [perform_askLine_once] at h
  cases hquestion : Console.question around.screen question with
  | error f =>
      rw [hquestion] at h
      cases h
  | ok shown =>
      rw [hquestion] at h
      cases hreplies : w.replies with
      | nil =>
          rw [hreplies] at h
          cases h
      | cons reply replies =>
          rw [hreplies] at h
          cases reply with
          | failure f => cases h
          | line line =>
              cases h
              exact ⟨line, rfl, rfl⟩

/-- Nothing is chosen only where no name is given and a blank line leaves the menu. -/
theorem choose_none {templates : List Template} {name : Option Text}
    (h : (choose templates name).perform around w = (.ok none, v)) :
    name.getD [] = [] ∧ ∃ lines line,
      w.replies = List.map Reply.line lines ++ .line line :: v.replies ∧ Text.strip line = [] := by
  unfold choose at h
  split at h
  · obtain ⟨t, x, -, h⟩ := ok_of_bind h
    cases h
  · rename_i hname
    refine ⟨?_, ?_⟩
    · cases name with
      | none => rfl
      | some query =>
          cases query with
          | nil => rfl
          | cons c cs => exact absurd rfl (hname c cs)
    · obtain ⟨ordered, x, hprinted, h⟩ := ok_of_bind h
      obtain ⟨choice, y, hasked, h⟩ := ok_of_bind h
      obtain ⟨before, hbefore⟩ := (converses_printCatalog templates).reads.of_ok hprinted
      rcases askChoice_ok hasked with
        ⟨rfl, lines, line, hlines, hblank⟩ | ⟨n, rfl, hlow, hhigh⟩
      · cases h
        refine ⟨before ++ lines, line, ?_, hblank⟩
        rw [hbefore, hlines, List.map_append, List.append_assoc]
      · -- a number between the bounds is that of a template
        have hin : n.toNat - 1 < ordered.length := by omega
        simp only [List.getElem?_eq_getElem hin, perform_pure] at h
        cases h

/-- The reader and the confirmer of a notebook ask at the console. -/
def AtConsole (book : Notebook) : Prop :=
  book.reader ≠ .script ∧ book.confirmer = .line

theorem reads_new (hbook : AtConsole book) (name : Option Text) (openEditor : Bool) :
    Reads Failure.IsOwn (new book name openEditor) := by
  refine reads_bind book.calm_load.converses.reads fun (templates, warnings) => ?_
  refine reads_bind (converses_printWarnings warnings).reads fun _ => ?_
  split
  · refine reads_bind converses_emptyNotice.reads fun notice => ?_
    exact reads_bind (converses_complainLine notice).reads fun _ => reads_pure _
  · refine reads_bind (converses_choose templates name).reads fun chosen => ?_
    cases chosen with
    | none => exact reads_pure _
    | some t =>
        refine reads_bind (Notebook.reads_createNote hbook.1 t openEditor none) fun created => ?_
        exact reads_bind (converses_printLine _).reads fun _ => reads_pure _

theorem reads_scaffold (name : Text) (priority : Option Int) (category : Text)
    (openEditor : Bool) :
    Reads Failure.IsOwn (scaffold book name priority category openEditor) := by
  cases priority with
  | none => exact (silent_throw id).reads
  | some priority =>
      refine reads_bind (book.silent_scaffold name priority category openEditor).reads
        fun created => ?_
      exact reads_bind (converses_printLine _).reads fun _ => reads_pure _

theorem reads_delete (hbook : AtConsole book) (name : Text) :
    Reads Failure.IsOwn (delete book name) := by
  refine reads_bind (Notebook.reads_delete (by simp [hbook.2]) name) fun deleted => ?_
  split
  · exact reads_bind (converses_printLine _).reads fun _ => reads_pure _
  · exact reads_bind (converses_printLine _).reads fun _ => reads_pure _

/-- Whatever a command does, it only fails with the failure of a read behind a read. -/
theorem reads_execute (hbook : AtConsole book) (command : Command) :
    Reads Failure.IsOwn (execute book command) := by
  cases command with
  | list => exact converses_list.reads
  | new name openEditor => exact reads_new hbook name openEditor
  | scaffold name priority category openEditor => exact reads_scaffold name priority category _
  | edit name => exact (converses_edit name).reads
  | delete name => exact reads_delete hbook name

end Reading

/-- Whether a command opens what it writes. -/
def opensNote : Command → Bool
  | .new _ openEditor | .scaffold _ _ _ openEditor => openEditor
  | _ => false

/--
The note that a command writes and where it goes: the one rendered from the template that was
chosen and from what was typed then, or the text of a new template under its name in the
directory of the templates.
-/
inductive Writes (book : Notebook) (around : Surroundings) (u : World) :
    Command → Text → Path → Prop
  | note {name : Option Text} {openEditor : Bool} {templates : List Template}
      {warnings : List Text} {t : Template} {content : Text} {target : Path} {w x y z : World}
      (loaded : book.load.perform around u = (.ok (templates, warnings), w))
      (warned : (printWarnings warnings).perform around w = (.ok (), x))
      (chosen : (choose templates name).perform around x = (.ok (some t), y))
      (prepared : (book.prepare t none).perform around y = (.ok (content, target), z)) :
      Writes book around u (.new name openEditor) content target
  | template {name category : Text} {priority : Int} {openEditor : Bool} {directory : Path}
      (inside : book.settings.templatesPath around.environment around.directory =
        .ok directory) :
      Writes book around u (.scaffold name (some priority) category openEditor)
        (Notebook.starter name) (directory.child (Filename.assemble priority category name))

/--
What happened in a run of a command, by the status it ends with: from a world to the replies
that are left and the files that are there then.
-/
inductive Verdict (book : Notebook) (around : Surroundings) (u : World) (left : List Reply)
    (t : Store) : Command → Int → Prop
  /-- Lines were read up to a read that failed because somebody broke off. -/
  | brokenOff {command : Command} {lines : List Text} {tail : List Reply} {f : Failure}
      (read : u.replies = lines.map .line ++ tail) (fails : ReadFails f tail left)
      (isBreak : f.IsBreak) (same : t = u.store) : Verdict book around u left t command 130
  | listed (same : t = u.store) : Verdict book around u left t .list 0
  | edited {name : Text} (same : t = u.store) : Verdict book around u left t (.edit name) 0
  /-- The last line that was read was blank. -/
  | leftMenu {name : Option Text} {openEditor : Bool} {lines : List Text} {line : Text}
      (unnamed : name.getD [] = [])
      (read : u.replies = lines.map .line ++ .line line :: left)
      (blank : Text.strip line = []) (same : t = u.store) :
      Verdict book around u left t (.new name openEditor) 0
  /-- The note is there, and the editor ended with status zero if it was wanted. -/
  | written {command : Command} {content : Text} {target : Path}
      (writes : Writes book around u command content target)
      (holds : Notebook.HoldsNote around target content u.store t)
      (closed : opensNote command = true → ∃ x y, x.store = t ∧
        Editor.ExitsWith around target.toText
          (book.settings.resolvedEditor around.environment) 0 x y) :
      Verdict book around u left t command 0
  /-- The entry that was looked up is gone. -/
  | deleted {name : Text} {p : Place} (found : book.FileAt around u name p)
      (entry : u.store.get? p ≠ some .directory) (gone : t = u.store.erase p) :
      Verdict book around u left t (.delete name) 0
  /-- The line that was read was no yes. -/
  | declined {name line : Text} (read : u.replies = .line line :: left)
      (no : Notebook.isYes (Text.strip line) = false) (same : t = u.store) :
      Verdict book around u left t (.delete name) 0
  | failed {command : Command} (same : t = u.store) : Verdict book around u left t command 1
  /-- At most directories on the way to the target are new. -/
  | stopped {command : Command} {content : Text} {target : Path}
      (writes : Writes book around u command content target)
      (directories : Notebook.OnlyDirectoriesNew around target u.store t) :
      Verdict book around u left t command 1
  /-- The note is there, but the editor failed. -/
  | unopened {command : Command} {content : Text} {target : Path} {e : EditorError}
      (writes : Writes book around u command content target)
      (holds : Notebook.HoldsNote around target content u.store t)
      (wanted : opensNote command = true)
      (failed : ∃ x y, x.store = t ∧ (Editor.openFile target.toText
        (book.settings.resolvedEditor around.environment)).perform around x =
          (.error (.editor e), y)) :
      Verdict book around u left t command 1

/--
What is known when a command ends, before its failure is turned into a status. That a break
comes from a read is known apart from this.
-/
def Ends (book : Notebook) (around : Surroundings) (u : World) (command : Command) :
    Except Failure Int × World → Prop
  | (.ok status, v) => Verdict book around u v.replies v.store command status
  | (.error f, v) =>
    (f.IsBreak → v.store = u.store) ∧
      (f.IsReported → Verdict book around u v.replies v.store command 1)

section Commands

variable {command : Command} {α : Type}

theorem ends_of_same {f : Failure} (h : v.store = u.store) :
    Ends book around u command (.error f, v) :=
  ⟨fun _ => h, fun _ => .failed h⟩

/-- Nothing has happened yet to the files behind an effect that only converses. -/
theorem ends_bind {a : Effect α} {g : α → Effect Int} (ha : Converses a)
    (hg : ∀ x v, a.perform around w = (.ok x, v) → v.store = u.store →
      Ends book around u command ((g x).perform around v)) (hw : w.store = u.store) :
    Ends book around u command ((a >>= g).perform around w) := by
  have hquiet := ha.quiet.store_eq around w
  rw [perform_bind]
  cases hrun : a.perform around w with
  | mk result v =>
      rw [hrun] at hquiet
      cases result with
      | error f => exact ends_of_same (hquiet.trans hw)
      | ok x => exact hg x v hrun (hquiet.trans hw)

/-- A line that says what happened does not change it; a failure to show it is not reported. -/
theorem ends_printLine (v : World) (shown : Text)
    (h : Verdict book around u v.replies v.store command 0) :
    Ends book around u command ((do
      printLine shown
      return 0).perform around v) := by
  rw [perform_bind, perform_printLine]
  cases hplain : Markup.plain around.screen shown with
  | ok line => exact h
  | error f =>
      have hmarkup := Markup.failsAs_plain around.screen shown f hplain
      refine ⟨fun hbreak => absurd hbreak hmarkup.isOwn, fun hreported => ?_⟩
      cases f with
      | template e => cases hmarkup
      | editor e => cases hmarkup
      | _ => cases hreported

/-- A delivery is followed by a line that says so. -/
theorem ends_of_delivery {content : Text} {target : Path} {a : Effect Path}
    (shown : Path → Text) (hwrites : Writes book around u command content target)
    (hdelivery : Notebook.Delivery around content target
      (book.settings.resolvedEditor around.environment) (opensNote command) u.store
      (a.perform around w)) :
    Ends book around u command ((do
      let created ← a
      printLine (shown created)
      return 0).perform around w) := by
  rw [perform_bind]
  cases hrun : a.perform around w with
  | mk result v =>
      rw [hrun] at hdelivery
      cases hdelivery with
      | stopped own directories =>
          exact ⟨fun hbreak => absurd hbreak own, fun _ => .stopped hwrites directories⟩
      | unopened holds wanted kind failed =>
          refine ⟨fun hbreak => absurd hbreak kind.isOwn, fun hreported => ?_⟩
          obtain ⟨x, hx, hfailed⟩ := failed
          cases ‹Failure› with
          | editor e => exact .unopened hwrites holds wanted ⟨x, v, hx, hfailed⟩
          | template e => cases kind
          | _ => cases hreported
      | written holds closed =>
          dsimp only
          refine ends_printLine v _ <| .written hwrites holds fun hopens => ?_
          obtain ⟨x, hx, hexits⟩ := closed hopens
          exact ⟨x, v, hx, hexits⟩

theorem ends_list (hw : w.store = u.store) :
    Ends book around u .list ((list book).perform around w) := by
  refine ends_bind book.calm_load.converses (fun (templates, warnings) x _ hx => ?_) hw
  refine ends_bind (converses_printWarnings warnings) (fun _ y _ hy => ?_) hx
  split
  · refine ends_bind converses_emptyNotice (fun notice z _ hz => ?_) hy
    exact ends_bind (converses_printLine notice) (fun _ _ _ hv => .listed hv) hz
  · refine ends_bind (converses_printLine _) (fun _ z _ hz => ?_) hy
    exact ends_bind (converses_discard (converses_printCatalog templates))
      (fun _ _ _ hv => .listed hv) hz

theorem ends_edit (name : Text) (hw : w.store = u.store) :
    Ends book around u (.edit name) ((edit book name).perform around w) :=
  ends_bind (calm_discard (book.calm_edit name)).converses
    (fun _ _ _ hv => .edited hv) hw

theorem ends_new (hbook : AtConsole book) (hclean : Materialization.SparesCleanUp around)
    (name : Option Text) (openEditor : Bool) :
    Ends book around u (.new name openEditor) ((new book name openEditor).perform around u) := by
  refine ends_bind book.calm_load.converses (fun (templates, warnings) x hload hx => ?_) rfl
  refine ends_bind (converses_printWarnings warnings) (fun _ y hwarned hy => ?_) hx
  split
  · refine ends_bind converses_emptyNotice (fun notice z _ hz => ?_) hy
    exact ends_bind (converses_complainLine notice) (fun _ _ _ hv => .failed hv) hz
  · refine ends_bind (converses_choose templates name) (fun chosen z hchosen hz => ?_) hy
    cases chosen with
    | none =>
        obtain ⟨first, hfirst⟩ := book.calm_load.converses.reads.of_ok hload
        obtain ⟨second, hsecond⟩ := (converses_printWarnings warnings).reads.of_ok hwarned
        obtain ⟨hunnamed, lines, line, hlines, hblank⟩ := choose_none hchosen
        have hread : u.replies =
            (first ++ second ++ lines).map .line ++ .line line :: z.replies := by
          rw [hfirst, hsecond, hlines]
          simp
        exact .leftMenu hunnamed hread hblank hz
    | some t =>
        have hprepare : Converses (book.prepare t none) :=
          ⟨book.quiet_prepare t none, Notebook.reads_prepare hbook.1 t none⟩
        dsimp only
        rw [perform_bind, Notebook.perform_createNote_deliver, ← perform_bind, bind_assoc]
        refine ends_bind hprepare (fun (content, target) v hprepared hv => ?_) hz
        refine ends_of_delivery (fun created =>
          "[green]Created[/green] " ++ Markup.escape created.toText)
          (.note hload hwarned hchosen hprepared) ?_
        rw [← hv]
        exact Notebook.delivery_deliver hclean content target _ openEditor v

theorem ends_scaffold (hclean : Materialization.SparesCleanUp around) (name : Text)
    (priority : Option Int) (category : Text) (openEditor : Bool) :
    Ends book around u (.scaffold name priority category openEditor)
      ((scaffold book name priority category openEditor).perform around u) := by
  cases priority with
  | none => exact ends_of_same rfl
  | some priority =>
      simp only [scaffold]
      rw [perform_bind]
      rcases book.perform_scaffold_deliver name priority category openEditor around u with
        ⟨f, -, hf⟩ | ⟨directory, hdirectory, hdelivered⟩
      · rw [hf]
        exact ends_of_same rfl
      · rw [hdelivered, ← perform_bind]
        refine ends_of_delivery (fun created =>
          "[green]Created template[/green] " ++ Markup.escape created.toText)
          (.template hdirectory) ?_
        exact Notebook.delivery_deliver hclean _ _ _ openEditor u

/-- What is said about an answer does not change what happened. -/
theorem ends_of_answer {a : Effect Bool} (yes no : Text)
    (herror : ∀ f v, a.perform around w = (.error f, v) → v.store = u.store)
    (hok : ∀ answer v, a.perform around w = (.ok answer, v) →
      Verdict book around u v.replies v.store command 0) :
    Ends book around u command ((do
      if ← a then printLine yes else printLine no
      return 0).perform around w) := by
  rw [perform_bind]
  cases hrun : a.perform around w with
  | mk result v =>
      cases result with
      | error f => exact ends_of_same (herror f v hrun)
      | ok answer =>
          cases answer with
          | false => exact ends_printLine v no (hok false v hrun)
          | true => exact ends_printLine v yes (hok true v hrun)

theorem ends_delete (hbook : AtConsole book) (name : Text) :
    Ends book around u (.delete name) ((delete book name).perform around u) := by
  have hends := @Notebook.delete_ends book name around u
  refine ends_of_answer _ _ (fun f v hrun => ?_) fun answer v hrun => ?_
  · rw [hrun] at hends
    rcases hends with ⟨g, -, hsame⟩ | ⟨t, typed, x, y, -, -, -, hfalse, -⟩ | ⟨p, -, -, htrue, -⟩
    · exact World.store_eq_of_history_eq hsame
    · cases hfalse
    · cases htrue
  · rw [hrun] at hends
    rcases hends with
      ⟨f, hf, -⟩ | ⟨t, typed, x, y, hfound, hasked, hno, -, hsame, hleft⟩ |
      ⟨p, hat, hentry, -, hgone⟩
    · cases hf
    · rw [hbook.2] at hasked
      obtain ⟨line, hline, rfl⟩ := askLine_ok hasked
      have htalk := ((book.calm_find name).silent around u).1
      rw [hfound] at htalk
      have hreplies : x.replies = u.replies := congrArg Prod.fst htalk
      have hleft : v.replies = y.replies := hleft
      have hread : u.replies = .line line :: v.replies := by
        rw [← hreplies, hline, hleft]
      exact .declined hread hno (World.store_eq_of_history_eq hsame)
    · exact .deleted hat hentry hgone

/-- What is known of every command when it ends. -/
theorem ends_execute (hbook : AtConsole book)
    (hclean : (∀ name, command ≠ .delete name) → Materialization.SparesCleanUp around) :
    Ends book around u command ((execute book command).perform around u) := by
  cases command with
  | list => exact ends_list rfl
  | new name openEditor => exact ends_new hbook (hclean fun _ => nofun) name openEditor
  | scaffold name priority category openEditor =>
      exact ends_scaffold (hclean fun _ => nofun) name priority category openEditor
  | edit name => exact ends_edit name rfl
  | delete name => exact ends_delete hbook name

end Commands

section Running

/-- A complaint leaves the replies and the files alone. -/
theorem complainLine_ok {s : Text} (h : (complainLine s).perform around w = (.ok (), v)) :
    v.replies = w.replies ∧ v.store = w.store := by
  rw [perform_complainLine] at h
  split at h
  · cases h
    exact ⟨rfl, rfl⟩
  · cases h

theorem report_ok {command : Command} {message : Text} {status : Int}
    (h : (report command message).perform around w = (.ok status, v)) :
    status = 1 ∧ v.replies = w.replies ∧ v.store = w.store := by
  rw [report] at h
  obtain ⟨_, x, hnoted, h⟩ := ok_of_bind h
  obtain ⟨_, y, hsaid, h⟩ := ok_of_bind h
  have hnoted : x.replies = w.replies ∧ x.store = w.store := by
    cases hnoted
    exact ⟨rfl, rfl⟩
  have hkept := complainLine_ok hsaid
  cases h
  exact ⟨rfl, hkept.1.trans hnoted.1, hkept.2.trans hnoted.2⟩

theorem reportBroken_ok {status : Int}
    (h : reportBroken.perform around w = (.ok status, v)) :
    status = 130 ∧ v.replies = w.replies ∧ v.store = w.store := by
  rw [reportBroken] at h
  obtain ⟨_, x, hsaid, h⟩ := ok_of_bind h
  have hkept := complainLine_ok hsaid
  cases h
  exact ⟨rfl, hkept⟩

/-- Reading the settings leaves the replies and the files alone. -/
theorem load_ok {settings : Settings}
    (h : Settings.load.perform around w = (.ok settings, v)) :
    v.replies = w.replies ∧ v.store = w.store := by
  have hbytes : Calm Failure.IsOwn Settings.fileBytes := by
    refine calm_bind ((Disk.calm_entryOnWay? _).mono fun _ h => h.isOwn) fun entry => ?_
    split
    · refine calm_bind ((Disk.calm_contents _).mono fun _ h => h.isOwn) fun _ => ?_
      exact calm_pure _
    · exact calm_pure _
  rw [Settings.load, perform_bind_ok _ _ (perform_read around w)] at h
  obtain ⟨bytes, x, hread, hrest⟩ := ok_of_bind h
  have hquiet := hbytes.quiet around w
  have htalk := (hbytes.silent around w).1
  rw [hread] at hquiet htalk
  obtain ⟨found, y, hfound, hcomplained⟩ := ok_of_bind hrest
  rw [(settle_ok hfound).2] at hcomplained
  cases hcomplained
  exact ⟨congrArg Prod.fst htalk, World.store_eq_of_history_eq hquiet⟩

/-- The settings are read, and the file of the log is open. -/
structure Ready (around : Surroundings) (w : World) (settings : Settings) (u : World) : Prop where
  loaded : (Settings.load.perform around w).1 = .ok settings
  store : (settings.logFile = none ∧ u.store = w.store) ∨
    ∃ named file, settings.logFile = some named ∧
      named.expandUser around.environment = .ok file ∧ OnlyLogNew around file w.store u.store
  replies : u.replies = w.replies

theorem discard_settle_ok {α : Type} {x : Except Failure α} {done : Unit}
    (h : (discard (settle x)).perform around w = (.ok done, v)) : v = w := by
  rw [perform_discard] at h
  obtain ⟨a, u, hsettled, hdone⟩ := ok_of_bind h
  cases hdone
  exact (settle_ok hsettled).2

/-- A command that is done with settings ends with a status that says what happened. -/
theorem verdict_runCommand {settings : Settings} {command : Command} {status : Int}
    (hclean : (∀ name, command ≠ .delete name) → Materialization.SparesCleanUp around)
    (h : (runCommand settings command).perform around w = (.ok status, v)) :
    ∃ u, (openLog settings).perform around w = (.ok (), u) ∧
      Verdict { settings } around u v.replies v.store command status := by
  have hbook : AtConsole { settings } := ⟨nofun, rfl⟩
  rw [runCommand] at h
  obtain ⟨_, u, hopened, h⟩ := ok_of_bind h
  obtain ⟨_, x, hthreshold, hrest⟩ := ok_of_bind h
  have hsame := discard_settle_ok hthreshold
  rw [hsame, perform_bind, perform_attempt] at hrest
  have hends : Ends { settings } around u command _ := ends_execute hbook hclean
  have hreads := reads_execute hbook command around u
  refine ⟨u, hopened, ?_⟩
  cases hexecuted : (execute { settings } command).perform around u with
  | mk result y =>
      rw [hexecuted] at hrest hends hreads
      cases result with
      | ok done =>
          cases hrest
          exact hends
      | error f =>
          have hbroken : f.IsBreak →
              Verdict { settings } around u y.replies y.store command 130 := by
            intro hbreak
            obtain ⟨lines, tail, hlines, ⟨-, hown⟩ | ⟨g, hg, hfails⟩⟩ := hreads
            · exact absurd hbreak (hown f rfl)
            · cases hg
              exact .brokenOff hlines hfails hbreak (hends.1 hbreak)
          cases f with
          | template e =>
              obtain ⟨rfl, hreplies, hstore⟩ := report_ok hrest
              rw [hreplies, hstore]
              exact hends.2 trivial
          | editor e =>
              obtain ⟨rfl, hreplies, hstore⟩ := report_ok hrest
              rw [hreplies, hstore]
              exact hends.2 trivial
          | interrupted =>
              obtain ⟨rfl, hreplies, hstore⟩ := reportBroken_ok hrest
              rw [hreplies, hstore]
              exact hbroken trivial
          | endOfInput message =>
              obtain ⟨rfl, hreplies, hstore⟩ := reportBroken_ok hrest
              rw [hreplies, hstore]
              exact hbroken trivial
          | _ => cases hrest

/--
A status tells what happened. The settings were read and the file of the log was opened before
the command began, and from then on the replies and the files are what the status says.
-/
theorem status_tells_what_happened {arguments : List Text} {command : Command} {status : Int}
    (hparse : CommandLine.parse arguments = .ok command)
    (hclean : (∀ name, command ≠ .delete name) → Materialization.SparesCleanUp around)
    (hrun : (run arguments).perform around w = (.ok status, v)) :
    ∃ settings u, Ready around w settings u ∧
      Verdict { settings } around u v.replies v.store command status := by
  rw [run, hparse] at hrun
  obtain ⟨settings, x, hloaded, hrun⟩ := ok_of_bind hrun
  obtain ⟨u, hopened, hverdict⟩ := verdict_runCommand hclean hrun
  obtain ⟨hreplies, hstore⟩ := load_ok hloaded
  have htalk := (silent_openLog settings around x).1
  rw [hopened] at htalk
  refine ⟨settings, u, ⟨by rw [hloaded], ?_, ?_⟩, hverdict⟩
  · rw [← hstore]
    exact openLog_cases hopened
  · rw [← hreplies]
    exact congrArg Prod.fst htalk

theorem status_tells_what_happened_written :
    let around : Surroundings :=
      { Surroundings.plain with
        environment := { bindings := [("HOME", "/h"), ("JOTR_TEMPLATES_DIR", "/t")] } }
    let w : World :=
      { store := { entries := [(["t"], .directory),
          (["t", "1-n-a.md"], .file 0o644 (Utf8.encode "<!-- Path: /o/x -->\nhi"))] } }
    let run := (run ["new", "a", "--no-edit"]).perform around w
    CommandLine.parse ["new", "a", "--no-edit"] = .ok (.new (some "a") false) ∧
      Materialization.SparesCleanUp around ∧ run.1 = .ok 0 ∧
      ∃ settings u, Ready around w settings u ∧
        Verdict { settings } around u run.2.replies run.2.store (.new (some "a") false) 0 := by
  intro around w run
  have hparse : CommandLine.parse ["new", "a", "--no-edit"] = .ok (.new (some "a") false) := by
    decide +kernel
  have hclean : Materialization.SparesCleanUp around :=
    Materialization.sparesCleanUp_of_spares fun _ hfault => nomatch hfault
  have hrun : run.1 = .ok 0 := by decide +kernel
  exact ⟨hparse, hclean, hrun,
    status_tells_what_happened hparse (fun _ => hclean) (Prod.ext hrun rfl)⟩

end Running

end Program

end NoteTemplates
