import NoteTemplates.Console.Handler
import NoteTemplates.Log.Stamped
import NoteTemplates.Program
import NoteTemplates.Store.Change
import Std.Time.Zoned

/-!
# The outer layer

The program runs on a picture of the file system that holds the places it may touch. When a
run comes upon a place that the picture lacks and the disk has, the picture is completed and
the run is done again; when it needs a line that nobody has typed yet, it is done again with
that line. Only then are its changes made on the disk, one after the other, and its texts
printed. No other program is started from here, so the editor is never found.
-/

namespace NoteTemplates
namespace Outside

/-- The file name of a place. -/
def fileName (p : Place) : String :=
  String.ofList ("/" ++ Text.joinWith "/" p)

/-- What is at a place of the disk. -/
def probe (p : Place) : IO (Option Entry) := do
  let file := System.mkFilePath [fileName p]
  if !(← file.pathExists) then return none
  if ← file.isDir then return some .directory
  return some (.file Disk.defaultMode (← IO.FS.readBinFile file).toList)

/-- The picture with what is at a place, if it does not have the place. -/
def withPlace (picture : Store) (p : Place) : IO Store := do
  if p.isEmpty || (picture.get? p).isSome then return picture
  match ← probe p with
  | some entry => return picture.insert p entry
  | none => return picture

/-- The picture with what is at a place and at those on the way to it. -/
def withWay (picture : Store) (p : Place) : IO Store :=
  ((List.range (p.length + 1)).map p.take).foldlM withPlace picture

/-- The picture with what is in a directory. -/
def withDirectory (picture : Store) (p : Place) : IO Store := do
  let picture ← withWay picture p
  if picture.get? p ≠ some .directory then return picture
  let entries ← (System.mkFilePath [fileName p]).readDir
  let inside := entries.toList.map fun e => p ++ [e.fileName.toList]
  inside.foldlM withPlace picture

/-- The text of a file, or none if it is no text. -/
def textOf (file : String) : IO Text := do
  let bytes ← IO.FS.readBinFile file
  return (Utf8.decode bytes.toList).toOption.getD []

/-- The number of the user who runs this process. -/
def userNumber : IO (Option Text) := do
  let status ← textOf "/proc/self/status"
  return ((Text.lines status).findSome? (Text.afterPrefix? "Uid:")).bind
    fun numbers => (Text.words numbers).head?

/-- The homes in the user database. -/
def users : IO Users := do
  let number ← userNumber
  let known := (Text.lines (← textOf "/etc/passwd")).filterMap fun line =>
    match Text.splitOn ':' line with
    | name :: _ :: user :: _ :: _ :: home :: _ => some (name, user, home)
    | _ => none
  return {
    own := known.findSome? fun (_, user, home) => if number = some user then some home else none
    named := known.map fun (name, _, home) => (name, home) }

/-- The variables of this process, and the user database. -/
def environment : IO Environment := do
  let text ← textOf "/proc/self/environ"
  return {
    bindings := Table.ofList ((Text.splitOn '\x00' text).filterMap (Text.splitFirst? '='))
    users := ← users }

/-- The columns of a screen that tells nothing about itself. -/
def defaultColumns : Nat := 80

/-- The screen, whose columns a variable may give. -/
def screen (environment : Environment) : Screen :=
  let given := ((environment.get? "COLUMNS").bind fun s => (Text.readInt s).toOption).getD 0
  if h : 0 < given.toNat then .folding given.toNat h Handler.check
  else .folding defaultColumns (by decide) Handler.check

/-- Endings for the names of temporary files. -/
def suffixes : IO (List Text) :=
  (List.replicate 100 ()).mapM fun _ => do
    let n ← IO.rand 0x10000000 0xFFFFFFFF
    return Text.hexDigits 8 n

/-- The time on the clock on the wall. -/
def clock : IO Moment := do
  let t ← Std.Time.PlainDateTime.now
  return {
    year := t.year.toInt.toNat
    month := t.month.val.toNat
    day := t.day.val.toNat
    hour := t.hour.val.toNat
    minute := t.minute.val.toNat }

/-- The moment as log files have it. -/
def stamp : IO Text := do
  let now ← Std.Time.Timestamp.now
  let t := Std.Time.PlainDateTime.ofWallTime (now.toWallTime Std.Time.TimeZone.Offset.zero)
  let two (n : Int) : Text := Moment.twoDigits n.toNat
  let seconds := two t.hour.val ++ ":" ++ two t.minute.val ++ ":" ++ two t.second.val
  let micros := Text.ofNat (1000000 + t.nanosecond.val.toNat / 1000)
  return Text.ofNat t.year.toInt.toNat ++ "-" ++ two t.month.val ++ "-" ++ two t.day.val ++
    "T" ++ seconds ++ "." ++ micros.drop 1 ++ "Z"

/-- What the program finds around it. -/
def surroundings : IO Surroundings := do
  let directory := Path.ofText (← IO.currentDir).toString.toList
  let environment ← environment
  return {
    environment
    directory
    clock := ← clock
    screen := screen environment
    suffixes := ← suffixes }

/-- The picture from which the first run starts: the settings and the templates. -/
def firstPicture (around : Surroundings) : IO (Store × Settings) := do
  let picture ← withWay {} (around.directory.child Settings.file).parts
  match (Settings.load.perform around { store := picture }).1 with
  | .error _ => return (picture, {})
  | .ok settings =>
    match settings.templatesPath around.environment around.directory with
    | .error _ => return (picture, settings)
    | .ok templates => return (← withDirectory picture templates.collapse.parts, settings)

/-- The rights that a mode gives. -/
def rights (mode : Nat) : IO.FileRight :=
  let of (shift : Nat) : IO.AccessRight :=
    { read := mode.testBit (shift + 2), write := mode.testBit (shift + 1),
      execution := mode.testBit shift }
  { user := of 6, group := of 3, other := of 0 }

/-- Makes a change on the disk. -/
def make : Change → IO Unit
  | .put p .directory => IO.FS.createDir (fileName p)
  | .put p (.file mode bytes) => do
    IO.FS.writeBinFile (fileName p) (ByteArray.mk bytes.toArray)
    IO.setAccessRights (fileName p) (rights mode)
  | .put _ (.link _) => return ()
  | .move source target => IO.FS.rename (fileName source) (fileName target)
  | .takeAway p => IO.FS.removeFile (fileName p)

/-- Makes the changes that lead through states of a store. -/
def makeAll : List Store → IO Unit
  | before :: after :: states => do
    (before.changes after).forM make
    makeAll (after :: states)
  | _ => return ()

/-- How a run ends that waits for a line. -/
def waiting : Failure := .broken "waiting for a line"

/-- The lines typed so far, and whether no more will come. -/
structure Typed where
  lines : List Text := []
  ended : Bool := false

/-- The replies that a run is given; after the last line it waits for the next. -/
def Typed.replies (t : Typed) : List Reply :=
  t.lines.map .line ++ if t.ended then [] else [.failure waiting]

/-- How much of what a run prints was printed already. -/
structure Shown where
  printed : Nat := 0
  complaints : Nat := 0

/-- Prints what was not printed yet. -/
def Shown.advance (s : Shown) (w : World) : IO Shown := do
  IO.print (String.ofList (w.printed.drop s.printed))
  (← IO.getStdout).flush
  IO.eprint (String.ofList (w.complaints.drop s.complaints))
  return { printed := w.printed.length, complaints := w.complaints.length }

/-- One more typed line. -/
def Typed.next (t : Typed) : IO Typed := do
  let line ← (← IO.getStdin).getLine
  if line.isEmpty then return { t with ended := true }
  return { t with lines := t.lines ++ [Text.dropSuffix "\n" line.toList] }

/-- Runs the program again and again until it neither lacks a place nor a line. -/
partial def play (around : Surroundings) (arguments : List Text) (picture : Store)
    (typed : Typed) (shown : Shown) : IO (Except Failure Int × World × Shown) := do
  let (result, world) :=
    (Program.run arguments).perform around { store := picture, replies := typed.replies }
  let touched := (world.store :: world.trail).flatMap Store.places
  let completed ← touched.foldlM withWay picture
  if completed.entries.length ≠ picture.entries.length then
    play around arguments completed typed shown
  else
    match result with
    | .error f =>
      if f = waiting then
        let shown ← shown.advance world
        play around arguments picture (← typed.next) shown
      else return (result, world, shown)
    | .ok _ => return (result, world, shown)

/-- Adds the events of a run to the file of the log. -/
def writeLog (around : Surroundings) (settings : Settings) (events : List Log.Event) :
    IO Unit := do
  match settings.logFile.map (Path.expandUser around.environment) with
  | some (.ok file) =>
    let stamp ← stamp
    let lines := (Log.visible settings.logLevel events).map fun e =>
      e.stamped settings.logFormat stamp
    let place := (file.absolute around.directory).collapse.parts
    let handle ← IO.FS.Handle.mk (fileName place) .append
    handle.putStr (String.ofList (Text.unlines (lines ++ [[]])))
  | _ => return ()

/-- Runs the program with arguments; its status. -/
def run (arguments : List Text) : IO UInt32 := do
  let around ← surroundings
  let (picture, settings) ← firstPicture around
  let (result, world, shown) ← play around arguments picture {} {}
  makeAll (world.store :: world.trail).reverse
  if !world.events.isEmpty then writeLog around settings world.events
  discard (shown.advance world)
  match result with
  | .ok status => return UInt32.ofNat status.toNat
  | .error f => do
    IO.eprintln (String.ofList f.message)
    return 1

end Outside
end NoteTemplates

def main (arguments : List String) : IO UInt32 :=
  NoteTemplates.Outside.run (arguments.map String.toList)
