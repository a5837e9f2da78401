import NoteTemplates.Disk
import NoteTemplates.Settings.File

/-!
# Settings

What can be set: where notes and templates live, the editor, the log, and the name of the
environment. A setting comes from a variable of the environment, else from the file `.env`
in the working directory, else it has its default. Names are read without regard to capitals.
-/

namespace NoteTemplates

/-- The settings of the program. -/
structure Settings where
  base : Path := Path.ofText "~/Notes"
  templates : Option Path := none
  editor : Option Text := none
  logLevel : Text := "WARNING"
  logFormat : Text := "console"
  logFile : Option Path := none
  environmentName : Text := "personal"
  deriving DecidableEq, Repr

namespace Settings

/-- What the names of settings begin with in an environment. -/
def namePrefix : Text := "jotr_"

/-- The file of settings. -/
def file : Text := ".env"

/-- The settings that an environment and the values of a file of settings make. -/
def ofSources (environment : Environment) (values : Table (Option Text)) : Settings :=
  let find? (name : Text) : Option Text :=
    (environment.getFolded? (namePrefix ++ name)).or
      ((Table.getFolded? values (namePrefix ++ name)).join)
  let defaults : Settings := {}
  { base := ((find? "base_dir").map Path.ofText).getD defaults.base
    templates := (find? "templates_dir").map Path.ofText
    editor := find? "editor"
    logLevel := (find? "log_level").getD defaults.logLevel
    logFormat := (find? "log_format").getD defaults.logFormat
    logFile := (find? "log_file").map Path.ofText
    environmentName := (find? "environment").getD defaults.environmentName }

/-- What a file of settings says; without a file there is nothing. -/
def said (environment : Environment) : Option Bytes → Except Failure SettingsFile
  | none => .ok {}
  | some bytes => (SettingsFile.ofBytes environment.bindings bytes).mapError .undecodable

/-- The bytes of the file of settings of the working directory, if there is one. -/
def fileBytes : Effect (Option Bytes) := do
  match ← Disk.entryOnWay? file with
  | some (.file ..) => return some (← Disk.contents file)
  | _ => return none

/-- The settings of the surroundings, with a complaint about each statement that is wrong. -/
def load : Effect Settings := do
  let environment := (← read).environment
  let found ← Effect.settle (said environment (← fileBytes))
  Effect.complain (found.unreadable.flatMap SettingsFile.complaint)
  return ofSources environment found.values

variable (s : Settings)

/-- The directory of the notes, seen from the root. -/
def basePath (environment : Environment) (directory : Path) : Except Failure Path :=
  (s.base.expandUser environment).map (·.absolute directory)

/-- The directory of the templates, seen from the root. -/
def templatesPath (environment : Environment) (directory : Path) : Except Failure Path :=
  match s.templates with
  | some templates => (templates.expandUser environment).map (·.absolute directory)
  | none => (s.basePath environment directory).map (·.child "templates")

/-- The editor command: that of the settings, else that of `VISUAL`, else that of `EDITOR`. -/
def resolvedEditor (environment : Environment) : Option Text :=
  let given (e : Option Text) : Option Text := e.filter fun e => !e.isEmpty
  ((given s.editor).or (given (environment.get? "VISUAL"))).or (environment.get? "EDITOR")

/-- Whether the program runs under test. -/
def isTesting : Bool :=
  let name := s.environmentName.map Char.toLower
  name = "testing" || name = "test"

end Settings
end NoteTemplates
