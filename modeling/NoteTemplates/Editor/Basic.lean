import NoteTemplates.Disk
import NoteTemplates.Editor.Script
import NoteTemplates.Editor.Words

/-!
# The editor

The editor is a command. Its first word must be a program that can be run: by its path if
there is a slash in it, else in one of the directories of `PATH`. The program is started
with the words of the command and the path of a file, and must exit with status zero.
-/

namespace NoteTemplates
namespace Editor

/-- The directories searched if `PATH` is not set. -/
def defaultSearch : Text := "/bin:/usr/bin"

/-- The directories in which programs are searched. -/
def searched (environment : Environment) : List Text :=
  match environment.get? "PATH" with
  | none => Text.splitOn ':' defaultSearch
  | some [] => []
  | some path => Text.splitOn ':' path

/-- The paths at which a program can be. -/
def candidates (environment : Environment) (program : Text) : List Text :=
  if '/' ∈ program then [program]
  else (searched environment).map fun directory => Disk.inside directory program

/-- Whether one of the paths is that of a program that can be run. -/
def anyRuns : List Text → Effect Bool
  | [] => return false
  | path :: paths => do
    if ← Disk.canRun path then return true
    anyRuns paths

/-- The words of an editor command whose program can be run. -/
def command (editor : Option Text) : Effect (List Text) :=
  match editor with
  | none | some [] => throw (.editor .notConfigured)
  | some editor =>
    match Words.ofText editor with
    | .error e => throw (.words e)
    | .ok [] => throw (.editor (.emptyCommand editor))
    | .ok (program :: arguments) => do
      if ← anyRuns (candidates (← read).environment program) then return program :: arguments
      throw (.editor (.notFound program))

/-- How many scripts may run one another. -/
def scriptDepth : Nat := 6

/-- A text of bytes that name a path; bytes that are no text name nothing. -/
def pathOfBytes (bytes : Bytes) : Except Errno Text :=
  if bytes.isEmpty then .ok "."
  else (Utf8.decode bytes).mapError fun _ => .noEntry

/--
Starts the program at a path, or the interpreter of the script there, and waits for it: its
status, or why nothing can be started. `onScript` starts interpreters, if scripts may still
be run.
-/
def startWith (onScript : Option (Text → List Text → Effect (Except Errno Int)))
    (path : Text) (arguments : List Text) : Effect (Except Errno Int) := do
  match ← Disk.look true path with
  | .ok (.found place (.file mode bytes)) =>
    if !Disk.permits Disk.runBit mode then return .error .denied
    match onScript, (← read).programs.lookup place with
    | none, _ => return .error .tooManyLinks
    | some _, some status =>
      let call := place.getLast?.getD [] :: arguments
      modify fun w => { w with started := w.started ++ [call] }
      return .ok status
    | some interpret, none =>
      match Interpreter.ofBytes bytes with
      | none => return .error .badFormat
      | some i =>
        match pathOfBytes i.path, Utf8.decode i.argument with
        | .error errno, _ => return .error errno
        | .ok program, argument =>
          let given := (argument.toOption.filter fun s => !s.isEmpty).toList
          interpret program (given ++ path :: arguments)
  | .ok (.found ..) => return .error .denied
  | .ok (.vacant _) => return .error .noEntry
  | .error errno => return .error errno

/-- Starts a program or a script; the number bounds how deep scripts go. -/
def start : Nat → Text → List Text → Effect (Except Errno Int)
  | 0 => startWith none
  | depth + 1 => startWith (some (start depth))

/-- Whether a refusal only says that nothing is there. -/
def isMissing (errno : Errno) : Bool :=
  errno = .noEntry || errno = .notDirectory

/--
Starts the first of the paths that can be started, and waits for it; its status. The first
refusal that is not about a missing file is the reason if there is none, else the last.
-/
def launch (program : Text) (arguments : List Text) :
    List Text → Option Errno → Errno → Effect Int
  | [], refusal, last => Effect.refuse (refusal.getD last) [program]
  | path :: paths, refusal, _ => do
    match ← start scriptDepth path arguments with
    | .ok status => return status
    | .error errno =>
      let refusal := if isMissing errno then refusal else refusal.or (some errno)
      launch program arguments paths refusal errno

/-- Opens a file in the editor and waits for the editor to exit. -/
def openFile (path : Text) (editor : Option Text) : Effect Unit := do
  match ← command editor with
  | [] => throw (.editor .notConfigured)
  | program :: arguments =>
    Effect.note .info .editor "Opening editor" [("editor", .text program), ("path", .text path)]
    if (program :: arguments ++ [path]).any (· |>.contains '\x00') then throw .embeddedNull
    let paths := candidates (← read).environment program
    let status ← launch program (arguments ++ [path]) paths none .noEntry
    if status ≠ 0 then throw (.editor (.exited program status))

end Editor
end NoteTemplates
