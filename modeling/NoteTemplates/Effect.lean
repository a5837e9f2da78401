import NoteTemplates.Console.Screen
import NoteTemplates.Log
import NoteTemplates.Moment
import NoteTemplates.Path
import NoteTemplates.Store.Walk

/-!
# Effects

What the program does to the world around it. An effect reads its surroundings, may change
the world, and ends with a value or with a failure; what it changed before a failure stays
changed. The world keeps every store it has been through, so that a statement about a run
that is cut off at any call is a statement about a list.
-/

namespace NoteTemplates

/-- The calls to the file system that can be made to fail. -/
inductive Call where
  | openFile
  | replace
  | remove
  | makeDirectories
  | list
  deriving DecidableEq, Repr

/-- A call that fails; with an ending, only for paths that end with it. -/
structure Fault where
  call : Call
  errno : Errno
  ending : Option Text := none
  deriving DecidableEq, Repr

/--
What an effect finds around it: the environment, the working directory, the time, the screen
of the console, the calls that fail, the endings that new temporary files try one after the
other, and the status with which each program at a place exits.
-/
structure Surroundings where
  environment : Environment
  directory : Path
  clock : Moment
  screen : Screen
  faults : List Fault := []
  suffixes : List Text := []
  programs : List (Place × Int) := []

/-- What comes back when somebody is asked: a line, or nothing for a reason. -/
inductive Reply where
  | line (s : Text)
  | failure (f : Failure)
  deriving DecidableEq, Repr

/--
The world: the file system with its earlier states, the latest first, the replies still to
come, the questions a script was asked, the programs that were started, what was printed,
what was complained about, the log, and the built-in values of the latest rendering.
-/
structure World where
  store : Store
  trail : List Store := []
  replies : List Reply := []
  asked : List Text := []
  started : List (List Text) := []
  printed : Text := []
  complaints : Text := []
  events : List Log.Event := []
  sample : Option Bindings := none
  deriving DecidableEq, Repr

/-- Something done to the world, ending with a value or a failure. -/
abbrev Effect := ReaderT Surroundings (EStateM Failure World)

namespace Effect

/-- Runs an effect: how it ends and the world it leaves. -/
def perform {α : Type} (a : Effect α) (around : Surroundings) (w : World) :
    Except Failure α × World :=
  match a around w with
  | .ok x w => (.ok x, w)
  | .error f w => (.error f, w)

/-- An effect whose failure is handed over instead of ending what surrounds it. -/
def attempt {α : Type} (a : Effect α) : Effect (Except Failure α) := fun around w =>
  match a around w with
  | .ok x w => .ok (.ok x) w
  | .error f w => .ok (.error f) w

/-- Ends an effect with a failure of the file system. -/
def refuse {α : Type} (errno : Errno) (paths : List Text) : Effect α :=
  throw (.system { errno, paths })

/-- Goes on with a value, or ends with the failure in its stead. -/
def settle {α : Type} : Except Failure α → Effect α
  | .ok x => pure x
  | .error f => throw f

/-- Puts a new state of the file system in the place of the present one. -/
def commit (s : Store) : Effect Unit :=
  modify fun w => { w with store := s, trail := w.store :: w.trail }

/-- Notes an event. -/
def note (level : Log.Level) (source : Log.Source) (message : Text)
    (values : List (Text × Log.Value)) : Effect Unit :=
  modify fun w => { w with events := w.events ++ [{ level, source, message, values }] }

/-- Prints a text. -/
def print (s : Text) : Effect Unit :=
  modify fun w => { w with printed := w.printed ++ s }

/-- Prints a text where complaints go. -/
def complain (s : Text) : Effect Unit :=
  modify fun w => { w with complaints := w.complaints ++ s }

end Effect
end NoteTemplates
