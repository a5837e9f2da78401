import NoteTemplates.Proofs.Deliveries
import NoteTemplates.Proofs.Editors
import NoteTemplates.Proofs.Lookups
import NoteTemplates.Proofs.Menus
import NoteTemplates.Proofs.Statuses

/-!
# What a bad editor comes to

A command reaches its editor when it has found the template that it opens, or has written its
note or its new template. From there on the check of the editor decides. If it fails with a
failure of the editor, this is reported in a line that can be shown whatever it says, and the
program ends with status one. If the command of the editor leaves a quote or a reverse solidus
open, it cannot be split, and nobody reports that: the program ends with the failure itself.
-/

namespace NoteTemplates

open Effect Console CommandLine

/-- The line that says why a command failed. -/
def errorLine (screen : Screen) (message : Text) : Text :=
  screen.layOut ("Error:" ++ Markup.spelled screen (" " ++ Markup.doubled message)) ++ Text.newline

/-- The world after the failure of a command was reported: noted, and told in a line. -/
def World.reported (w : World) (screen : Screen) (command : Command) (message : Text) : World :=
  { w.noted
      { level := .debug
        source := .commandLine
        message := "Command failed"
        values := [("command", .text command.word), ("error", .text message)] } with
    complaints := w.complaints ++ errorLine screen message }

namespace Notebook

variable {book : Notebook} {around : Surroundings} {w v : World} {f : Failure}

/-- Nothing is opened if the check of the editor fails. -/
theorem perform_openAt_of_error {path : Path}
    (h : (Editor.command (book.settings.resolvedEditor around.environment)).perform around v =
      (.error f, v)) : (book.openAt path).perform around v = (.error f, v) := by
  have hopen : (Editor.openFile path.toText
      (book.settings.resolvedEditor around.environment)).perform around v = (.error f, v) := by
    rw [Editor.openFile, perform_bind, h]
  have heditor : book.editor.perform around v =
      (.ok (book.settings.resolvedEditor around.environment), v) := rfl
  rw [openAt, perform_bind_ok around v heditor, perform_bind, hopen]

/-- Where a template is found, the directory of the templates is known. -/
theorem exists_templatesPath_of_find {query : Text} {t : Template}
    (h : (book.find query).perform around w = (.ok t, v)) :
    ∃ path, book.settings.templatesPath around.environment around.directory = .ok path := by
  cases hpath : book.settings.templatesPath around.environment around.directory with
  | ok path => exact ⟨path, rfl⟩
  | error f =>
      obtain ⟨loaded, u, hloaded, -⟩ := ok_of_bind h
      have hload : book.load.perform around w = (.error f, w) :=
        Catalog.perform_load_of_error hpath
      rw [hload] at hloaded
      cases hloaded

/-- Who edits a template opens its file once it is found. -/
theorem perform_edit_of_find {query : Text} {t : Template}
    (h : (book.find query).perform around w = (.ok t, v)) :
    ∃ path, (book.edit query).perform around w = (book.openAt path).perform around v := by
  obtain ⟨directory, hdirectory⟩ := exists_templatesPath_of_find h
  refine ⟨directory.child t.filename, ?_⟩
  rw [edit, perform_bind_ok around w h]
  exact perform_bind_ok around v (book.perform_pathOf hdirectory t) _

/-- A note is opened once it is written. -/
theorem perform_createNote_of_written {t : Template} {now : Option Moment} {created : Path}
    (h : (book.createNote t false false now).perform around w = (.ok created, v)) :
    (book.createNote t true false now).perform around w =
      (book.openAt created).perform around v := by
  rw [perform_createNote_deliver] at h ⊢
  obtain ⟨note, x, hprepared, hdelivered⟩ := ok_of_bind h
  obtain ⟨target, y, hcreated, hdone⟩ := ok_of_bind hdelivered
  cases hdone
  rw [perform_bind_ok around w hprepared, deliver, perform_bind_ok around x hcreated]
  rfl

/-- A new template is opened once it is written. -/
theorem perform_scaffold_of_written {name category : Text} {priority : Int} {created : Path}
    (h : (book.scaffold name priority category false).perform around w = (.ok created, v)) :
    (book.scaffold name priority category true).perform around w =
      (book.openAt created).perform around v := by
  rw [scaffold] at h ⊢
  obtain ⟨_, x, hname, h⟩ := ok_of_bind h
  obtain ⟨directory, y, hdirectory, h⟩ := ok_of_bind h
  obtain ⟨path, z, hcreated, hdone⟩ := ok_of_bind h
  cases hdone
  rw [perform_bind_ok around w hname, perform_bind_ok around x hdirectory,
    perform_bind_ok around y hcreated]
  rfl

end Notebook

namespace Program

variable {book : Notebook} {around : Surroundings} {u v w : World} {command : Command}
  {f : Failure}

/-- A failure can be reported whatever it says. -/
theorem perform_report (command : Command) (message : Text) (around : Surroundings)
    (w : World) :
    (report command message).perform around w =
      (.ok 1, w.reported around.screen command message) := by
  have hline : Markup.plain around.screen ("[red]Error:[/red] " ++ Markup.escape message) =
      .ok ("Error:" ++ Markup.spelled around.screen (" " ++ Markup.doubled message)) :=
    Markup.plain_warning "Error:" "red" " " (by decide) (by decide) (by decide +kernel) (by decide)
      around.screen message
  rw [report, perform_bind_ok around w (perform_note around w ..), perform_bind,
    perform_complainLine, hline]
  rfl

/--
The settings are read, the file of the log is open and its threshold is known: the command
begins.
-/
structure Begins (around : Surroundings) (w : World) (settings : Settings) (u : World) :
    Prop where
  opened : ∃ x, Settings.load.perform around w = (.ok settings, x) ∧
    (openLog settings).perform around x = (.ok (), u)
  threshold : ∃ rank, Log.thresholdRank settings.logLevel = .ok rank

/--
A command comes to the point at which the editor is looked for: the template that is to be
edited is found, or the note or the new template is written.
-/
inductive ReachesEditor (book : Notebook) (around : Surroundings) (u v : World) :
    Command → Prop
  | edit {name : Text} {t : Template}
      (found : (book.find name).perform around u = (.ok t, v)) :
      ReachesEditor book around u v (.edit name)
  | new {name : Option Text} {templates : List Template} {warnings : List Text} {t : Template}
      {created : Path} {x y z : World}
      (loaded : book.load.perform around u = (.ok (templates, warnings), x))
      (warned : (printWarnings warnings).perform around x = (.ok (), y))
      (chosen : (choose templates name).perform around y = (.ok (some t), z))
      (written : (book.createNote t false false none).perform around z = (.ok created, v)) :
      ReachesEditor book around u v (.new name true)
  | scaffold {name category : Text} {priority : Int} {created : Path}
      (written : (book.scaffold name priority category false).perform around u =
        (.ok created, v)) :
      ReachesEditor book around u v (.scaffold name (some priority) category true)

/-- Nothing can be chosen where there are no templates. -/
theorem ne_nil_of_choose {templates : List Template} {name : Option Text} {t : Template}
    (h : (choose templates name).perform around w = (.ok (some t), v)) : templates ≠ [] := by
  rintro rfl
  unfold choose at h
  split at h
  · cases h
  · obtain ⟨ordered, x, hprinted, h⟩ := ok_of_bind h
    cases hprinted
    obtain ⟨choice, y, -, h⟩ := ok_of_bind h
    cases choice with
    | none => cases h
    | some n => cases h

/-- Where the editor is reached, the failure of its check is that of the command. -/
theorem perform_execute_of_error (h : ReachesEditor book around u v command)
    (hcheck : (Editor.command (book.settings.resolvedEditor around.environment)).perform around v =
      (.error f, v)) :
    (execute book command).perform around u = (.error f, v) := by
  have hopen (path : Path) : (book.openAt path).perform around v = (.error f, v) :=
    Notebook.perform_openAt_of_error hcheck
  cases h with
  | edit found =>
      obtain ⟨path, hedit⟩ := Notebook.perform_edit_of_find found
      rw [execute, Program.edit, perform_bind, perform_discard, perform_bind, hedit, hopen]
  | new loaded warned chosen written =>
      have hsome := ne_nil_of_choose chosen
      rw [execute, Program.new, perform_bind_ok around u loaded]
      dsimp only
      rw [perform_bind_ok around _ warned, if_neg (by simpa using hsome),
        perform_bind_ok around _ chosen]
      dsimp only
      rw [perform_bind, Notebook.perform_createNote_of_written written, hopen]
  | scaffold written =>
      rw [execute, Program.scaffold]
      rw [perform_bind, Notebook.perform_scaffold_of_written written, hopen]

/--
What a run makes of the failure of its command: those of templates and of the editor are
reported, a break is told, and all others end the run.
-/
theorem perform_run {arguments : List Text} {settings : Settings}
    (hparse : CommandLine.parse arguments = .ok command) (hbegins : Begins around w settings u)
    (hexecute : (execute { settings } command).perform around u = (.error f, v)) :
    let outcome := (run arguments).perform around w
    (f.IsReported → outcome = (.ok 1, v.reported around.screen command f.message)) ∧
      (f.IsBreak → outcome = reportBroken.perform around v) ∧
      (¬ f.IsReported → ¬ f.IsBreak → outcome = (.error f, v)) := by
  intro outcome
  obtain ⟨x, hloaded, hopened⟩ := hbegins.opened
  obtain ⟨rank, hrank⟩ := hbegins.threshold
  have hthreshold : (discard (settle
      ((Log.thresholdRank settings.logLevel).mapError Failure.threshold))).perform around u =
        (.ok (), u) := by
    rw [hrank]
    rfl
  have hrun : outcome = (runCommand settings command).perform around x := by
    change (run arguments).perform around w = _
    rw [run, hparse]
    exact perform_bind_ok around w hloaded _
  rw [runCommand, perform_bind_ok around x hopened, perform_bind_ok around u hthreshold,
    perform_bind, perform_attempt, hexecute] at hrun
  rw [hrun]
  cases f with
  | template e | editor e =>
      exact ⟨fun _ => perform_report command e.message around v, False.elim,
        fun h => absurd trivial h⟩
  | interrupted | endOfInput message =>
      exact ⟨False.elim, fun _ => rfl, fun _ h => absurd trivial h⟩
  | _ => exact ⟨False.elim, False.elim, fun _ _ => rfl⟩

/--
A run comes to an editor that is no good: the variables and the file of settings set it to
something whose check does not end with words that can be used.
-/
inductive MeetsBadEditor (around : Surroundings) (editor : Option Text) (arguments : List Text)
    (w : World) (command : Command) (v : World) : Prop
  | intro {settings : Settings} {u : World}
      (parsed : CommandLine.parse arguments = .ok command)
      (begins : Begins around w settings u)
      (reaches : ReachesEditor { settings } around u v command)
      (isSet : settings.resolvedEditor around.environment = editor)
      (bad : ∀ words, ¬ Editor.Checked around v.store editor (.ok words))

/--
A bad editor is reported unless its command leaves something open. For every setting and whatever
can be run, the check of the editor ends as `Checked` says and changes nothing; it ends with words
whose first is a program that is found, or with a failure of the editor, if and only if the
command leaves no quote and no reverse solidus open. So a run that comes to an editor that is no
good ends with status one and a line that says why if and only if nothing is left open. If
something is, the run ends with the failure to split the command, and nothing more is done.
-/
theorem bad_editor_is_reported_iff (around : Surroundings) (editor : Option Text) :
    (∀ w result v, (Editor.command editor).perform around w = (result, v) ↔
      Editor.Checked around w.store editor result ∧ v = w) ∧
    (∀ s result, Editor.Checked around s editor result →
      (Editor.IsSettled around s result ↔ ∀ e, ¬ Words.LeavesOpen (editor.getD []) e)) ∧
    ∀ arguments command w v, MeetsBadEditor around editor arguments w command v →
      let outcome := (run arguments).perform around w
      (∀ e, Editor.Checked around v.store editor (.error (.editor e)) →
        outcome = (.ok 1, v.reported around.screen command e.message)) ∧
      (∀ e, Words.LeavesOpen (editor.getD []) e → outcome = (.error (.words e), v)) ∧
      (outcome.1 = .ok 1 ↔ ∀ e, ¬ Words.LeavesOpen (editor.getD []) e) := by
  refine ⟨fun w result v => Editor.command_ends_iff, fun s result h => h.isSettled_iff, ?_⟩
  rintro arguments command w v ⟨hparse, hbegins, hreaches, hset, hbad⟩ outcome
  have hends {f : Failure} (h : Editor.Checked around v.store editor (.error f)) :=
    perform_run hparse hbegins
      (perform_execute_of_error hreaches (by rw [hset, Editor.perform_command h]))
  have hreported : ∀ e, Editor.Checked around v.store editor (.error (.editor e)) →
      outcome = (.ok 1, v.reported around.screen command e.message) :=
    fun e h => (hends h).1 trivial
  have hopen : ∀ e, Words.LeavesOpen (editor.getD []) e → outcome = (.error (.words e), v) :=
    fun e h => (hends (Editor.checked_of_leavesOpen h)).2.2 id id
  refine ⟨hreported, hopen, ?_⟩
  obtain ⟨result, hchecked⟩ := Editor.exists_checked around v.store editor
  by_cases hclosed : ∀ e, ¬ Words.LeavesOpen (editor.getD []) e
  · refine iff_of_true ?_ hclosed
    cases result with
    | ok words => exact absurd hchecked (hbad words)
    | error f =>
        obtain ⟨e, rfl⟩ := hchecked.isSettled_iff.mpr hclosed
        rw [hreported e hchecked]
  · refine iff_of_false ?_ hclosed
    push Not at hclosed
    obtain ⟨e, he⟩ := hclosed
    rw [hopen e he]
    exact nofun

/-- Surroundings in which a variable of the environment names an editor. -/
def naming (name command : Text) : Surroundings :=
  { Surroundings.plain with
    environment := { bindings := [("HOME", "/h"), ("JOTR_TEMPLATES_DIR", "/t"), ("PATH", "/b"),
      (name, command)] } }

/-- A world with one template. -/
def desk : World :=
  { store := { entries := [(["t"], .directory),
      (["t", "1-n-a.md"], .file 0o644 (Utf8.encode "hi"))] } }

/--
An empty word names no program, which is reported behind the new template; an open quote is not
reported.
-/
theorem bad_editor_is_reported_iff_quotes :
    let scaffold : Command := .scaffold "b" (some 1) "notes" true
    let empty := naming "JOTR_EDITOR" "'' x"
    let opened := naming "EDITOR" "ed 'x"
    (∃ v, MeetsBadEditor empty (some (("'' x" : String) : Text)) ["scaffold", "b"] desk scaffold v ∧
      (run ["scaffold", "b"]).perform empty desk =
        (.ok 1, v.reported empty.screen scaffold "editor '' not found in PATH")) ∧
    ∃ v, MeetsBadEditor opened (some (("ed 'x" : String) : Text)) ["edit", "a"] desk (.edit "a") v ∧
      (run ["edit", "a"]).perform opened desk = (.error (.words .openQuotation), v) := by
  intro scaffold empty opened
  constructor
  · let settings : Settings :=
      { templates := some (Path.ofText "/t"), editor := some (("'' x" : String) : Text) }
    have hload : (Settings.load.perform empty desk).1 = .ok settings := by decide +kernel
    obtain ⟨u, hu, hload⟩ := exists_eq_of_fst_eq_ok hload
    have hwritten : ((Notebook.scaffold { settings } "b" 1 "notes" false).perform empty u).1 =
        .ok (Path.ofText "/t/1-notes-b.md") := by
      rw [hu]
      decide +kernel
    obtain ⟨v, -, hwritten⟩ := exists_eq_of_fst_eq_ok hwritten
    have hparse : CommandLine.parse ["scaffold", "b"] = .ok scaffold := by decide +kernel
    have hbegins : Begins empty desk settings u := ⟨⟨u, hload, rfl⟩, 30, by decide +kernel⟩
    have hspells : Words.Spells "'' x" [[], "x"] := Words.ofText_eq_ok_iff.mp (by decide)
    have hchecked : Editor.Checked empty v.store (some (("'' x" : String) : Text))
        (.error (.editor (.notFound []))) := .missing hspells fun h => h.ne_nil rfl
    have hmeets : MeetsBadEditor empty (some (("'' x" : String) : Text)) ["scaffold", "b"] desk
        scaffold v :=
      ⟨hparse, hbegins, .scaffold hwritten, rfl, fun words h => nomatch h.unique hchecked⟩
    have hmessage : EditorError.message (.notFound []) =
        (("editor '' not found in PATH" : String) : Text) := by decide
    have hreported := (bad_editor_is_reported_iff empty (some (("'' x" : String) : Text))).2.2
      _ _ _ _ hmeets
    refine ⟨v, hmeets, ?_⟩
    rw [← hmessage]
    exact hreported.1 _ hchecked
  · let settings : Settings := { templates := some (Path.ofText "/t") }
    have hload : (Settings.load.perform opened desk).1 = .ok settings := by decide +kernel
    obtain ⟨u, hu, hload⟩ := exists_eq_of_fst_eq_ok hload
    have hfound : ((Notebook.find { settings } "a").perform opened u).1 =
        .ok (Notebook.leadingTo []) := by
      rw [hu]
      decide +kernel
    obtain ⟨v, -, hfound⟩ := exists_eq_of_fst_eq_ok hfound
    have hparse : CommandLine.parse ["edit", "a"] = .ok (.edit "a") := by decide +kernel
    have hbegins : Begins opened desk settings u := ⟨⟨u, hload, rfl⟩, 30, by decide +kernel⟩
    have hopen : Words.LeavesOpen "ed 'x" .openQuotation :=
      Words.ofText_eq_error_iff.mp (by decide)
    have hchecked : Editor.Checked opened v.store (some (("ed 'x" : String) : Text))
        (.error (.words .openQuotation)) := .leftOpen hopen
    have hmeets : MeetsBadEditor opened (some (("ed 'x" : String) : Text)) ["edit", "a"] desk
        (.edit "a") v :=
      ⟨hparse, hbegins, .edit hfound, rfl, fun words h => nomatch h.unique hchecked⟩
    have hended := (bad_editor_is_reported_iff opened (some (("ed 'x" : String) : Text))).2.2
      _ _ _ _ hmeets
    exact ⟨v, hmeets, hended.2.1 _ hopen⟩

end Program

end NoteTemplates
