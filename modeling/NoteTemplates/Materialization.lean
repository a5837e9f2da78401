import NoteTemplates.Editor.Basic

/-!
# Materialization

Writing a note once and for all. A file is written beside its place under a hidden name,
gets its mode, and is then moved to its place, so that nobody sees it half done; the hidden
file is taken away if anything fails. A note is only written where nothing is.
-/

namespace NoteTemplates
namespace Materialization

open Effect

/-- What a temporary name begins with. -/
def temporaryName (name : Text) : Text :=
  "." ++ name ++ ".tmp."

/-- Fills a temporary file, gives it a mode, and moves it to its place. -/
def fill (temporary : Text) (target : Path) (content : Text) (mode : Nat) : Effect Unit := do
  Disk.writeFile temporary (Utf8.encode content)
  Disk.setMode temporary mode
  Disk.replace temporary target.toText

/-- Takes a temporary file away if it is still there. -/
def cleanUp (temporary : Text) : Effect Unit := do
  if ← Disk.present temporary then Disk.remove temporary

/--
Writes a file whole or not at all. `path` is the path as it was given; nothing is touched if
the writing was called off.
-/
def writeAtomically (path : Text) (content : Text) (mode : Nat) (calledOff : Bool) :
    Effect Unit := do
  if calledOff then throw (.cancelled path)
  let target := Path.ofText path
  note .debug .files "Starting atomic write"
    [("path", .text target.toText), ("size", .count content.length)]
  let directory := (target.parent.absolute (← read).directory).collapse.toText
  let temporary ← Disk.makeTemporary directory (temporaryName target.name)
  match ← attempt (fill temporary target content mode) with
  | .ok _ => note .debug .files "Atomic write completed" [("path", .text target.toText)]
  | .error f => do
    cleanUp temporary
    throw f

/-- A failure of the file system turned into one of the pipeline; others stay. -/
def asTemplateError (kind : TemplateErrorKind) (path : Path) : Failure → Failure
  | .system e =>
    .template
      { kind, detail := path.toText ++ ": " ++ e.message, cause := some (.system e) }
  | f => f

/-- An effect whose failures of the file system become failures of the pipeline. -/
def reporting {α : Type} (kind : TemplateErrorKind) (path : Path) (a : Effect α) : Effect α := do
  match ← attempt a with
  | .ok x => return x
  | .error f => throw (asTemplateError kind path f)

/-- Writes a note where nothing is, and makes the directories on the way. -/
def create (content : Text) (target : Path) (calledOff : Bool) : Effect Path := do
  reporting .directoryCreateFailed target.parent (Disk.makeDirectories target.parent.toText)
  if ← Disk.present target.toText then
    throw (.template { kind := .targetExists, detail := target.toText })
  reporting .writeFailed target
    (writeAtomically target.toText content Disk.defaultMode calledOff)
  note .info .notes "Note created"
    [("path", .text target.toText), ("size", .count content.length)]
  return target

/-- Writes a note where nothing is, then opens it in the editor. -/
def createAndOpen (content : Text) (target : Path) (editor : Option Text) (calledOff : Bool) :
    Effect Path := do
  let target ← create content target calledOff
  Editor.openFile target.toText editor
  return target

end Materialization
end NoteTemplates
