import Mathlib.Data.List.Infix
import NoteTemplates.Notebook
import NoteTemplates.Proofs.Calls

/-!
# Operations that leave the files alone

Loading and finding templates, asking questions, rendering a note and running an editor are
quiet: they read the file system and change nothing in it. Only writing and deleting are
left for the modules that follow. All of these operations but the asking of questions are
calm: nothing is read or shown, and none of their failures is that of a read.
-/

namespace NoteTemplates

open Effect

section Failures

theorem Path.failsAs_expandUser (environment : Environment) (p : Path) :
    FailsAs Failure.IsOwn (p.expandUser environment) := by
  unfold expandUser
  split
  · split
    · exact failsAs_error id
    · split
      · exact failsAs_error id
      · split
        · exact failsAs_error id
        · exact failsAs_ok _
  · exact failsAs_ok _

theorem Path.failsAs_expandHome (environment : Environment) (s : Text) :
    FailsAs Failure.IsOwn (Path.expandHome environment s) := by
  unfold expandHome
  split
  · exact (failsAs_expandUser environment _).map _
  · exact failsAs_ok _

theorem Settings.failsAs_basePath (s : Settings) (environment : Environment)
    (directory : Path) : FailsAs Failure.IsOwn (s.basePath environment directory) :=
  (Path.failsAs_expandUser environment _).map _

theorem Settings.failsAs_templatesPath (s : Settings) (environment : Environment)
    (directory : Path) : FailsAs Failure.IsOwn (s.templatesPath environment directory) := by
  unfold templatesPath
  split
  · exact (Path.failsAs_expandUser environment _).map _
  · exact (s.failsAs_basePath environment directory).map _

theorem Filename.failsAs_ofText (filename : Text) :
    FailsAs Failure.IsOwn (Filename.ofText filename) := by
  unfold ofText
  split
  · split
    · exact failsAs_error id
    · split
      · exact failsAs_error id
      · exact failsAs_ok _
  · exact failsAs_error id

theorem Template.failsAs_parse (path content : Text) :
    FailsAs Failure.IsOwn (Template.parse path content) := by
  refine (Filename.failsAs_ofText _).bind fun parts => ?_
  refine (failsAs_mapError fun _ => id).bind fun target => ?_
  exact (failsAs_mapError fun _ => id).bind fun declared => failsAs_ok _

theorem Notebook.failsAs_newFilename (name : Text) (priority : Int) (category : Text) :
    FailsAs Failure.IsOwn (newFilename name priority category) := by
  unfold newFilename
  dsimp only
  split
  · exact failsAs_error id
  · split
    · exact failsAs_error id
    · exact (Filename.failsAs_ofText _).map _

/-- The file name of a new template is made of what was asked for. -/
theorem Notebook.eq_assemble_of_newFilename {name : Text} {priority : Int} {category : Text}
    {filename : Text} (h : newFilename name priority category = .ok filename) :
    filename = Filename.assemble priority category name := by
  unfold newFilename at h
  dsimp only at h
  split at h
  · cases h
  · split at h
    · cases h
    · cases hread : Filename.ofText (Filename.assemble priority category name) with
      | error f =>
          rw [hread] at h
          cases h
      | ok parts =>
          rw [hread] at h
          exact (Except.ok.inj h).symm

theorem BuiltIns.failsAs_resolve (environment : Environment) (directory base : Path)
    (now : Moment) : FailsAs Failure.IsOwn (resolve environment directory base now) :=
  (Path.failsAs_expandUser environment base).map _

theorem Template.failsAs_renderBody (t : Template) (environment : Environment)
    (directory : Path) (values : Bindings) (answers : List Text) (base : Path) (now : Moment) :
    FailsAs Failure.IsOwn
      (t.renderBody environment directory values answers base now).1 :=
  (BuiltIns.failsAs_resolve environment directory base now).map _

theorem Template.failsAs_renderTarget (t : Template) (environment : Environment)
    (directory : Path) (values : Bindings) (base : Path) (now : Moment) :
    FailsAs Failure.IsOwn (t.renderTarget environment directory values base now).1 := by
  unfold renderTarget
  split
  · exact (BuiltIns.failsAs_resolve environment directory base now).bind fun _ =>
      Path.failsAs_expandHome environment _
  · exact failsAs_error id

end Failures

namespace Catalog

theorem calm_candidates (directory : Text) (entries : List (Text × Entry)) :
    Calm Failure.IsOfDisk (candidates directory entries) := by
  induction entries with
  | nil => exact calm_pure _
  | cons entry entries ih =>
      obtain ⟨name, e⟩ := entry
      simp only [candidates]
      split
      · refine calm_bind (Disk.calm_isFile _ e) fun isFile => ?_
        split
        · exact calm_bind ih fun _ => calm_pure _
        · exact ih
      · exact ih

theorem failsAs_templateIn (directory name : Text) (bytes : Bytes) :
    FailsAs Failure.IsOwn (templateIn directory name bytes) := by
  unfold templateIn
  split
  · exact failsAs_error id
  · exact Template.failsAs_parse _ _

theorem calm_readTemplate (directory name : Text) :
    Calm Failure.IsOwn (readTemplate directory name) := by
  refine calm_attempt_bind (Disk.calm_readFile _) (fun bytes => ?_) fun f hf => ?_
  · dsimp only
    have hfails := failsAs_templateIn directory name bytes
    split
    · exact calm_pure _
    · exact calm_pure _
    · rename_i f _ hf
      exact calm_throw (hfails f hf)
  · cases f with
    | system e => exact calm_pure _
    | _ => exact calm_throw hf.isOwn

theorem calm_readTemplates (directory : Text) (names : List Text) :
    Calm Failure.IsOwn (readTemplates directory names) := by
  induction names with
  | nil => exact calm_pure _
  | cons name names ih =>
      refine calm_bind (calm_readTemplate directory name) fun result => ?_
      refine calm_bind ih fun rest => ?_
      dsimp only
      split
      · exact calm_pure _
      · exact calm_pure _

theorem calm_ofDirectory (directory : Text) :
    Calm Failure.IsOwn (ofDirectory directory) := by
  refine calm_attempt_bind (Disk.calm_list directory) (fun entries => ?_) fun f hf => ?_
  · refine calm_bind ((calm_candidates directory _).mono fun _ h => h.isOwn) fun names => ?_
    exact calm_readTemplates directory _
  · cases f with
    | system e =>
        dsimp only
        split
        · exact calm_pure _
        · exact calm_pure _
    | _ => exact calm_throw hf.isOwn

theorem calm_load (s : Settings) : Calm Failure.IsOwn (load s) := by
  refine calm_bind calm_read fun around => ?_
  refine calm_bind (calm_settle (s.failsAs_templatesPath _ _)) fun directory => ?_
  refine calm_bind (calm_ofDirectory _) fun found => ?_
  refine calm_bind (calm_forM (fun _ => calm_note _ _ _ _) _) fun _ => ?_
  exact calm_bind (calm_note _ _ _ _) fun _ => calm_pure _

end Catalog

namespace Reader

theorem quiet_leave (replies : List Reply) : Quiet (Console.leave replies) :=
  quiet_modify fun _ => rfl

theorem quiet_askUntil {α : Type} (shown notice : Text)
    (judge : Text → Except Failure (Option α)) (replies : List Reply) :
    Quiet (Console.askUntil shown notice judge replies) := by
  induction replies with
  | nil => exact quiet_bind (quiet_print shown) fun _ => quiet_throw _
  | cons reply replies ih =>
      cases reply with
      | failure f =>
          refine quiet_bind (quiet_leave replies) fun _ => ?_
          exact quiet_bind (quiet_print shown) fun _ => quiet_throw f
      | line s =>
          refine quiet_bind (quiet_leave replies) fun _ => ?_
          refine quiet_bind (quiet_print shown) fun _ => ?_
          refine quiet_bind (quiet_settle _) fun answer => ?_
          split
          · exact quiet_pure _
          · exact quiet_bind (quiet_print _) fun _ => ih

theorem quiet_askScript (question : Text) : Quiet (askScript question) := by
  refine quiet_bind (quiet_modify fun _ => rfl) fun _ => ?_
  refine quiet_bind quiet_get fun w => ?_
  split
  · exact quiet_throw _
  · exact quiet_bind (quiet_leave _) fun _ => quiet_throw _
  · exact quiet_bind (quiet_leave _) fun _ => quiet_pure _

theorem quiet_ask (r : Reader) (question : Text) : Quiet (r.ask question) := by
  cases r with
  | script => exact quiet_askScript question
  | required =>
      refine quiet_bind quiet_read fun around => quiet_bind (quiet_settle _) fun shown => ?_
      exact quiet_bind quiet_get fun w => quiet_askUntil _ _ _ _
  | line =>
      refine quiet_bind quiet_read fun around => quiet_bind (quiet_settle _) fun shown => ?_
      exact quiet_bind quiet_get fun w => quiet_askUntil _ _ _ _

end Reader

namespace Editor

theorem calm_anyRuns {E : Failure → Prop} (paths : List Text) : Calm E (anyRuns paths) := by
  induction paths with
  | nil => exact calm_pure _
  | cons path paths ih =>
      refine calm_bind (Disk.calm_canRun path) fun runs => ?_
      split
      · exact calm_pure _
      · exact ih

theorem calm_command (editor : Option Text) : Calm Failure.IsOfEditor (command editor) := by
  unfold command
  split
  · exact calm_throw trivial
  · exact calm_throw trivial
  · split
    · exact calm_throw trivial
    · exact calm_throw trivial
    · refine calm_bind calm_read fun around => ?_
      refine calm_bind (calm_anyRuns _) fun runs => ?_
      split
      · exact calm_pure _
      · exact calm_throw trivial

/-- Starting a program changes no file if starting the interpreters of scripts does not. -/
theorem calm_startWith {E : Failure → Prop}
    {onScript : Option (Text → List Text → Effect (Except Errno Int))}
    (h : ∀ interpret ∈ onScript, ∀ path arguments, Calm E (interpret path arguments))
    (path : Text) (arguments : List Text) :
    Calm E (startWith onScript path arguments) := by
  refine calm_bind (Disk.calm_look true path) fun landing => ?_
  split
  · split
    · exact calm_pure _
    · refine calm_bind calm_read fun around => ?_
      split
      · exact calm_pure _
      · exact calm_bind (calm_modify (fun _ => rfl) fun _ => rfl) fun _ => calm_pure _
      · split
        · exact calm_pure _
        · split
          · exact calm_pure _
          · exact h _ rfl _ _
  · exact calm_pure _
  · exact calm_pure _
  · exact calm_pure _

theorem calm_start {E : Failure → Prop} (depth : Nat) (path : Text) (arguments : List Text) :
    Calm E (start depth path arguments) := by
  induction depth generalizing path arguments with
  | zero => exact calm_startWith (by simp) path arguments
  | succ depth ih => exact calm_startWith (by simpa using ih) path arguments

theorem calm_launch (program : Text) (arguments paths : List Text)
    (refusal : Option Errno) (last : Errno) :
    Calm Failure.IsOfEditor (launch program arguments paths refusal last) := by
  induction paths generalizing refusal last with
  | nil => exact calm_refuse (fun _ => trivial) _ _
  | cons path paths ih =>
      refine calm_bind (calm_start _ path arguments) fun result => ?_
      split
      · exact calm_pure _
      · exact ih _ _

theorem calm_openFile (path : Text) (editor : Option Text) :
    Calm Failure.IsOfEditor (openFile path editor) := by
  refine calm_bind (calm_command editor) fun words => ?_
  split
  · exact calm_throw trivial
  · refine calm_bind (calm_note _ _ _ _) fun _ => ?_
    split
    · exact calm_throw trivial
    · refine calm_bind calm_read fun around => ?_
      refine calm_bind (calm_launch _ _ _ _ _) fun status => ?_
      split
      · exact calm_throw trivial
      · exact calm_pure _

end Editor

namespace Notebook

variable (book : Notebook)

theorem calm_templatesPath : Calm Failure.IsOwn book.templatesPath :=
  calm_bind calm_read fun _ => calm_settle (book.settings.failsAs_templatesPath _ _)

theorem calm_editor : Calm Failure.IsOwn book.editor :=
  calm_bind calm_read fun _ => calm_pure _

theorem calm_load : Calm Failure.IsOwn book.load :=
  Catalog.calm_load book.settings

theorem calm_find (query : Text) : Calm Failure.IsOwn (book.find query) :=
  calm_bind book.calm_load fun _ => calm_settle (failsAs_mapError fun _ => id)

theorem calm_pathOf (t : Template) : Calm Failure.IsOwn (book.pathOf t) :=
  calm_bind book.calm_templatesPath fun _ => calm_pure _

theorem quiet_askVariables (r : Reader) (vs : List Variable) : Quiet (askVariables r vs) := by
  induction vs with
  | nil => exact quiet_pure _
  | cons v vs ih =>
      refine quiet_bind (r.quiet_ask _) fun value => ?_
      exact quiet_bind ih fun _ => quiet_pure _

theorem quiet_askQuestions (r : Reader) (questions : List Text) :
    Quiet (askQuestions r questions) := by
  induction questions with
  | nil => exact quiet_pure _
  | cons question questions ih =>
      refine quiet_bind (r.quiet_ask _) fun answer => ?_
      exact quiet_bind ih fun _ => quiet_pure _

theorem quiet_collect (t : Template) : Quiet (book.collect t) := by
  refine quiet_bind (quiet_askVariables _ _) fun values => ?_
  refine quiet_bind (quiet_note _ _ _ _) fun _ => ?_
  refine quiet_bind (quiet_askQuestions _ _) fun answers => ?_
  exact quiet_bind (quiet_note _ _ _ _) fun _ => quiet_pure _

theorem calm_render (t : Template) (values : Bindings) (answers : List Text)
    (now : Option Moment) : Calm Failure.IsOwn (book.render t values answers now) := by
  refine calm_bind calm_read fun around => ?_
  refine calm_bind (calm_settle (book.settings.failsAs_basePath _ _)) fun base => ?_
  refine calm_bind (calm_modify (fun _ => rfl) fun _ => rfl) fun _ => ?_
  refine calm_bind (calm_settle (t.failsAs_renderBody _ _ _ _ _ _)) fun body => ?_
  refine calm_bind (calm_modify (fun _ => rfl) fun _ => rfl) fun _ => ?_
  exact calm_bind (calm_settle (Template.failsAs_renderTarget _ _ _ _ _ _)) fun _ => calm_pure _

theorem quiet_prepare (t : Template) (now : Option Moment) :
    Quiet (book.prepare t now) := by
  unfold prepare
  split
  · refine quiet_bind (quiet_throw _) fun _ => ?_
    refine quiet_bind (quiet_note _ _ _ _) fun _ => ?_
    exact quiet_bind (book.quiet_collect t) fun _ => (book.calm_render t _ _ now).quiet
  · refine quiet_bind (quiet_note _ _ _ _) fun _ => ?_
    exact quiet_bind (book.quiet_collect t) fun _ => (book.calm_render t _ _ now).quiet

/-- Opening the file of a template changes no file. -/
theorem calm_edit (query : Text) : Calm Failure.IsOwn (book.edit query) := by
  refine calm_bind (book.calm_find query) fun t => ?_
  refine calm_bind (book.calm_pathOf t) fun path => ?_
  refine calm_bind book.calm_editor fun editor => ?_
  refine calm_bind ((Editor.calm_openFile _ _).mono fun _ h => h.isOwn) fun _ => ?_
  exact calm_pure _

end Notebook

end NoteTemplates
