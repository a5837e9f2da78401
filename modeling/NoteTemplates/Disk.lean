import NoteTemplates.Effect

/-!
# The disk

The calls to the file system. Each looks at its path first, may be made to fail, and changes
at most one entry of the store. A path with a NUL in it is no path.
-/

namespace NoteTemplates
namespace Disk

open Effect

/-- The mode of files that are made for a moment only. -/
def privateMode : Nat := 0o600

/-- The mode of files that are made by writing to them. -/
def defaultMode : Nat := 0o644

/-- The bits of a mode that say what the owner of a file may do with it. -/
def readBit : Nat := 0o400

def writeBit : Nat := 0o200

def runBit : Nat := 0o100

/-- The bits that a mode has. -/
def modeBits : Nat := 0o7777

/-- Whether a mode lets the owner of a file do something with it. -/
def permits (bit mode : Nat) : Bool :=
  mode &&& bit ≠ 0

/-- Where the walk of a path ends. -/
def look (follow : Bool) (path : Text) : Effect (Except Errno Landing) := do
  let around ← read
  let world ← get
  return world.store.find around.directory.parts follow path

/-- Refuses a path with a NUL in it. -/
def checkPath (path : Text) : Effect Unit :=
  if '\x00' ∈ path then throw .embeddedNull else pure ()

/-- Fails if the surroundings make a call to one of the paths fail. -/
def checkFault (call : Call) (paths : List Text) : Effect Unit := do
  let around ← read
  let hits (f : Fault) : Bool :=
    f.call = call &&
      match f.ending with
      | none => true
      | some ending => paths.any (Text.endsWith ending)
  match around.faults.find? hits with
  | some f => refuse f.errno []
  | none => pure ()

/-- What is at a path when links are followed; nothing if the walk is refused. -/
def entryAt? (path : Text) : Effect (Option Entry) := do
  if '\x00' ∈ path then return none
  match ← look true path with
  | .ok (.found _ entry) => return some entry
  | _ => return none

/-- The reasons for which a path is taken to lead to nothing. -/
def ofAbsence : List Int :=
  [Errno.noEntry, Errno.notDirectory, Errno.tooManyLinks].map Errno.number

/--
What is at a path when links are followed; nothing if the way to it is not there. A walk
that is refused for another reason is a failure.
-/
def entryOnWay? (path : Text) : Effect (Option Entry) := do
  if '\x00' ∈ path then return none
  match ← look true path with
  | .ok (.found _ entry) => return some entry
  | .ok (.vacant _) => return none
  | .error errno => if errno.number ∈ ofAbsence then return none else refuse errno [path]

/-- Whether something is at a path when links are followed. -/
def present (path : Text) : Effect Bool :=
  return (← entryAt? path).isSome

/-- Whether a directory is at a path when links are followed. -/
def isDirectory (path : Text) : Effect Bool :=
  return (← entryAt? path) = some .directory

/-- Makes one directory. -/
def makeDirectory (path : Text) : Effect Unit := do
  checkPath path
  match ← look false (if path.all (· = '/') then path else Path.dropSlashes path) with
  | .ok (.vacant place) => commit ((← get).store.insert place .directory)
  | .ok (.found ..) => refuse .occupied [path]
  | .error errno => refuse errno [path]

/-- The part of a path before its last slash and the part after it. -/
def splitLast (path : Text) : Text × Text :=
  let tail := (path.reverse.takeWhile (· ≠ '/')).reverse
  let head := (path.reverse.dropWhile (· ≠ '/')).reverse
  (if head.all (· = '/') then head else Path.dropSlashes head, tail)

/-- The path of the directory that a path is in, and the name in it; a final slash is ignored. -/
def splitPath (path : Text) : Text × Text :=
  match splitLast path with
  | (head, []) => splitLast head
  | parts => parts

/--
Makes a directory with the missing ones above it, at most as many as the number says, which
are looked for before any is made. A directory that is there is left alone.
-/
def makeMissing : Nat → Text → Effect Unit
  | 0, _ => throw (.tooNested .directories)
  | depth + 1, path => do
    let (head, tail) := splitPath path
    if head.isEmpty || tail.isEmpty then make path
    else if ← present head then make path
    else
      match ← attempt (makeMissing depth head) with
      | .error (.system e) => if e.errno = .occupied then pure () else throw (.system e)
      | .error f => throw f
      | .ok _ => pure ()
      if tail = "." then return ()
      make path
where
  make (path : Text) : Effect Unit := do
    match ← attempt (makeDirectory path) with
    | .error (.system e) => if ← isDirectory path then pure () else throw (.system e)
    | .error f => throw f
    | .ok _ => pure ()

/-- Makes a directory with the missing ones above it. -/
def makeDirectories (path : Text) : Effect Unit := do
  checkFault .makeDirectories [path]
  makeMissing Nesting.directories.limit path

/-- A name in a directory as one path. -/
def inside (directory name : Text) : Text :=
  if directory.isEmpty || directory.getLast? = some '/' then directory ++ name
  else directory ++ "/" ++ name

/-- Makes an empty file whose name has the first ending that is not taken; its path. -/
def makeTemporary (directory beginning : Text) : Effect Text := do
  tryAll (← read).suffixes
where
  tryAll : List Text → Effect Text
    | [] => throw (.system
        { errno := ⟨Errno.occupied.number, "No usable temporary file name found"⟩, paths := [] })
    | suffix :: suffixes => do
      let path := inside directory (beginning ++ suffix)
      checkPath path
      match ← look false path with
      | .ok (.vacant place) =>
        commit ((← get).store.insert place (.file privateMode []))
        return path
      | .ok (.found ..) => tryAll suffixes
      | .error errno => refuse errno [path]

/-- Writes a file from its beginning; no fault of the surroundings is looked for. -/
def overwrite (path : Text) (bytes : Bytes) : Effect Unit := do
  checkPath path
  match ← look true path with
  | .ok (.found place (.file mode _)) =>
    if permits writeBit mode then commit ((← get).store.insert place (.file mode bytes))
    else refuse .denied [path]
  | .ok (.vacant place) => commit ((← get).store.insert place (.file defaultMode bytes))
  | .ok (.found ..) => refuse .isDirectory [path]
  | .error errno => refuse errno [path]

/-- Makes an empty file where nothing is; a file that is there must be one to write to. -/
def openToExtend (path : Text) : Effect Unit := do
  checkPath path
  match ← look true path with
  | .ok (.found _ (.file mode _)) =>
    if permits writeBit mode then pure () else refuse .denied [path]
  | .ok (.vacant place) => commit ((← get).store.insert place (.file defaultMode []))
  | .ok (.found ..) => refuse .isDirectory [path]
  | .error errno => refuse errno [path]

/-- Writes a file from its beginning. -/
def writeFile (path : Text) (bytes : Bytes) : Effect Unit := do
  checkFault .openFile [path]
  overwrite path bytes

/-- The bytes of a file; no fault of the surroundings is looked for. -/
def contents (path : Text) : Effect Bytes := do
  checkPath path
  match ← look true path with
  | .ok (.found _ (.file mode bytes)) =>
    if permits readBit mode then return bytes else refuse .denied [path]
  | .ok (.found ..) => refuse .isDirectory [path]
  | .ok (.vacant _) => refuse .noEntry [path]
  | .error errno => refuse errno [path]

/-- The bytes of a file. -/
def readFile (path : Text) : Effect Bytes := do
  checkFault .openFile [path]
  contents path

/-- Gives a file a mode, of which only the bits that a mode has count. -/
def setMode (path : Text) (mode : Nat) : Effect Unit := do
  checkPath path
  match ← look true path with
  | .ok (.found place (.file _ bytes)) =>
    commit ((← get).store.insert place (.file (mode &&& modeBits) bytes))
  | .ok (.found ..) => pure ()
  | .ok (.vacant _) => refuse .noEntry [path]
  | .error errno => refuse errno [path]

/-- Whether the last name of a path is one that every directory has, or is missing. -/
def endsInDots (path : Text) : Bool :=
  match (Walk.names path).getLast? with
  | none => true
  | some name => name = "." || name = ".."

/-- Moves a file to a path, in the stead of a file or a link that is there. -/
def replace (source target : Text) : Effect Unit := do
  checkFault .replace [source, target]
  checkPath source
  checkPath target
  match ← look false source with
  | .error errno => refuse errno [source, target]
  | .ok (.vacant _) => refuse .noEntry [source, target]
  | .ok (.found origin entry) =>
    match ← look false target with
    | .error errno => refuse errno [source, target]
    | .ok landing =>
      if endsInDots target then refuse .busy [source, target]
      else
        match landing with
        | .found place .directory =>
          refuse (if place.isPrefixOf origin then .notEmpty else .isDirectory) [source, target]
        | .found place _ | .vacant place =>
          commit (((← get).store.erase origin).insert place entry)

/-- Takes a file or a link away. -/
def remove (path : Text) : Effect Unit := do
  checkFault .remove [path]
  checkPath path
  match ← look false path with
  | .ok (.found _ .directory) => refuse .isDirectory [path]
  | .ok (.found place _) => commit ((← get).store.erase place)
  | .ok (.vacant _) => refuse .noEntry [path]
  | .error errno => refuse errno [path]

/-- The names and entries in a directory. -/
def list (path : Text) : Effect (List (Text × Entry)) := do
  checkFault .list [path]
  checkPath path
  match ← look true path with
  | .ok (.found place .directory) => return (← get).store.children place
  | .ok (.found ..) => refuse .notDirectory [path]
  | .ok (.vacant _) => refuse .noEntry [path]
  | .error errno => refuse errno [path]

/-- Whether an entry of a listing is a file, or a link to one; a link that leads nowhere is not. -/
def isFile (path : Text) (entry : Entry) : Effect Bool :=
  match entry with
  | .file .. => return true
  | .directory => return false
  | .link _ => do
    match ← look true path with
    | .ok (.found _ (.file ..)) => return true
    | .ok _ => return false
    | .error errno => if errno = .noEntry then return false else refuse errno [path]

/-- Whether a file that may be run is at a path. -/
def canRun (path : Text) : Effect Bool := do
  match ← entryAt? path with
  | some (.file mode _) => return permits runBit mode
  | _ => return false

end Disk
end NoteTemplates
