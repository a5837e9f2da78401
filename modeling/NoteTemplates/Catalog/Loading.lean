import NoteTemplates.Catalog.Basic
import NoteTemplates.Disk
import NoteTemplates.Settings.Basic

/-!
# Loading a catalog

The templates of a directory are the files directly in it whose names end in `.md`, in the
order of the names. A file that cannot be read is left out and its failure is handed
over beside the templates. A directory that is not there holds no templates.
-/

namespace NoteTemplates
namespace Catalog

open Effect

/-- The names of the files among entries of a directory that end like templates. -/
def candidates (directory : Text) : List (Text × Entry) → Effect (List Text)
  | [] => return []
  | (name, entry) :: entries => do
    if Text.endsWith Filename.suffix name then
      if ← Disk.isFile (Disk.inside directory name) entry then
        return name :: (← candidates directory entries)
    candidates directory entries

/-- Why a file cannot be read, in words. -/
def reason (e : SystemError) : Text :=
  if e.errno.text.isEmpty then e.message else e.errno.text

/-- The template in bytes of a file with a name. -/
def templateIn (directory name : Text) (bytes : Bytes) : Except Failure Template :=
  match Utf8.decode bytes with
  | .error fault =>
    .error (.template { kind := .parseFailed, detail := fault.message, template := some name })
  | .ok content => Template.parse (Disk.inside directory name) content

/--
The template in a file, or what is wrong with it. Failures that say nothing about the file
end the search.
-/
def readTemplate (directory name : Text) : Effect (Except Failure Template) := do
  match ← attempt (Disk.readFile (Disk.inside directory name)) with
  | .error (.system e) => return .error (.unreadable name (reason e))
  | .error f => throw f
  | .ok bytes =>
    match templateIn directory name bytes with
    | .ok t => return .ok t
    | .error (.template e) => return .error (.template e)
    | .error f => throw f

/-- The templates in files, and the failures of those that hold none. -/
def readTemplates (directory : Text) : List Text → Effect (List Template × List Failure)
  | [] => return ([], [])
  | name :: names => do
    let result ← readTemplate directory name
    let (templates, failures) ← readTemplates directory names
    match result with
    | .ok t => return (t :: templates, failures)
    | .error f => return (templates, f :: failures)

/-- The templates of a directory and the failures of its other files. -/
def ofDirectory (directory : Text) : Effect (List Template × List Failure) := do
  match ← attempt (Disk.list directory) with
  | .error (.system e) =>
    if e.errno.number = Errno.noEntry.number then return ([], [])
    return ([], [.system e])
  | .error f => throw f
  | .ok entries =>
    let names ← candidates directory entries
    readTemplates directory (names.mergeSort Text.le)

/-- Notes a file that is left out. -/
def noteSkipped (warning : Text) : Effect Unit :=
  note .warning .catalog "Skipping template" [("reason", .text warning)]

/-- The catalog of the templates that the settings point to, and warnings about other files. -/
def load (s : Settings) : Effect (List Template × List Text) := do
  let around ← read
  let directory := (← settle (s.templatesPath around.environment around.directory)).toText
  let (templates, failures) ← ofDirectory directory
  let warnings := failures.map Failure.message
  warnings.forM noteSkipped
  note .debug .catalog "Loaded templates"
    [("templates_dir", .text directory), ("count", .count templates.length),
     ("skipped", .count warnings.length)]
  return (sort templates, warnings)

end Catalog
end NoteTemplates
