import NoteTemplates.Bindings
import NoteTemplates.Failure

/-!
# Paths

A path is an anchor and the names that follow it. Writing a path in text collapses repeated
slashes, drops single dots and a final slash, and keeps double dots, which only the file
system can resolve. Exactly two leading slashes are an anchor of their own.
-/

namespace NoteTemplates

/-- Where a path begins. -/
inductive Anchor where
  | here
  | root
  | doubleRoot
  deriving DecidableEq, Repr

/-- Whether a part of a text names something; the empty part and the single dot do not. -/
def Path.isName (part : Text) : Bool :=
  part ≠ [] && part ≠ ['.'] && '/' ∉ part

/-- One step of a path: a name without a slash, which is neither empty nor the single dot. -/
abbrev Path.Step := { part : Text // Path.isName part }

/-- A path: where it begins and the steps on the way. -/
structure Path where
  anchor : Anchor
  steps : List Path.Step
  deriving DecidableEq, Repr

/-- The homes that the user database knows: that of who runs the program, and those by name. -/
structure Users where
  own : Option Text := none
  named : Bindings := []
  deriving DecidableEq, Repr

/-- The environment of the program: its variables, and the user database. -/
structure Environment where
  bindings : Bindings := []
  users : Users := {}
  deriving DecidableEq, Repr

namespace Environment

variable (e : Environment)

/-- The value of a variable. -/
def get? (name : Text) : Option Text :=
  e.bindings.get? name

/-- A variable given a value. -/
def put (name value : Text) : Environment :=
  { e with bindings := e.bindings.put name value }

/-- A variable taken out. -/
def remove (name : Text) : Environment :=
  { e with bindings := e.bindings.remove name }

/-- The value of the last variable whose name is the given one but for capitals. -/
def getFolded? (name : Text) : Option Text :=
  e.bindings.getFolded? name

/-- The home directory of a user as text; the user without a name is who runs the program. -/
def home? : Text → Option Text
  | [] => (e.get? "HOME").or e.users.own
  | user => e.users.named.get? user

end Environment

namespace Path

/-- The anchor that a text begins with. -/
def anchorOf : Text → Anchor
  | '/' :: '/' :: '/' :: _ => .root
  | '/' :: '/' :: _ => .doubleRoot
  | '/' :: _ => .root
  | _ => .here

/-- The step that a part of a text stands for, if it names something. -/
def Step.ofPart? (part : Text) : Option Step :=
  if h : isName part then some ⟨part, h⟩ else none

/-- The path that a text stands for. -/
def ofText (s : Text) : Path :=
  { anchor := anchorOf s, steps := (Text.splitOn '/' s).filterMap Step.ofPart? }

/-- The names on the way. -/
def parts (p : Path) : List Text :=
  p.steps.map (·.val)

def Anchor.text : Anchor → Text
  | .here => []
  | .root => "/"
  | .doubleRoot => "//"

/-- The path in text; the path that goes nowhere is a single dot. -/
def toText (p : Path) : Text :=
  match p.anchor, p.parts with
  | .here, [] => "."
  | anchor, parts => Anchor.text anchor ++ Text.joinWith "/" parts

/-- Whether a path does not depend on the working directory. -/
def isAbsolute (p : Path) : Bool :=
  p.anchor ≠ .here

/-- A path followed from another; an absolute one starts anew. -/
def join (p q : Path) : Path :=
  if q.isAbsolute then q else { p with steps := p.steps ++ q.steps }

/-- A path followed by one more step, given as text. -/
def child (p : Path) (name : Text) : Path :=
  p.join (ofText name)

/-- The last name of a path; empty if it has none. -/
def name (p : Path) : Text :=
  p.parts.getLast?.getD []

/-- The path without its last name. -/
def parent (p : Path) : Path :=
  { p with steps := p.steps.dropLast }

/-- The path seen from the root, when `directory` is the working directory. -/
def absolute (p directory : Path) : Path :=
  directory.join p

/-- One more step, where a double dot takes the step before it away. -/
def stepLexically (steps : List Step) (step : Step) : List Step :=
  if step.val = ".." then steps.dropLast else steps ++ [step]

/-- An absolute path without double dots, each taking away the name before it. -/
def collapse (p : Path) : Path :=
  { p with steps := p.steps.foldl stepLexically [] }

/-- The slashes at the end of a text taken off. -/
def dropSlashes (s : Text) : Text :=
  (s.reverse.dropWhile (· = '/')).reverse

/-- The home directory of a user as text, with its final slashes taken off. -/
def homeText? (environment : Environment) (user : Text) : Option Text :=
  (environment.home? user).map fun home =>
    match dropSlashes home with
    | [] => "/"
    | home => home

/--
A path with a leading `~` or `~user` replaced by the home directory. A user can be one that
nobody knows, or one that there cannot be if a NUL is in the name; and no home directory can
begin with a tilde again.
-/
def expandUser (environment : Environment) (p : Path) : Except Failure Path :=
  match p.anchor, p.steps with
  | .here, ⟨'~' :: user, _⟩ :: rest =>
    if user.contains '\x00' then .error .embeddedNull
    else
      match homeText? environment user with
      | none => .error .homeless
      | some home =>
        if Text.startsWith "~" home then .error .homeless
        else
          let home := ofText home
          .ok { home with steps := home.steps ++ rest }
  | _, _ => .ok p

/-- The home directory. -/
def home (environment : Environment) : Except Failure Path :=
  expandUser environment (ofText "~")

/-- The path that a text stands for, where a leading `~/` means the home directory. -/
def expandHome (environment : Environment) (s : Text) : Except Failure Path :=
  match s with
  | '~' :: '/' :: rest => (home environment).map (·.child rest)
  | s => .ok (ofText s)

end Path
end NoteTemplates
