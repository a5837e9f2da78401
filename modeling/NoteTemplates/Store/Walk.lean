import NoteTemplates.Failure
import NoteTemplates.Store.Basic

/-!
# Walking a path

A path in text is walked name by name. A dot stays, a double dot goes up, a link is replaced
by the names of its target, at most forty times on one walk; every name but the last must
be that of a directory. A walk ends at an entry, or at a vacant place in a directory, or is
refused.
-/

namespace NoteTemplates

/-- Where a walk ends. -/
inductive Landing where
  | found (place : Place) (entry : Entry)
  | vacant (place : Place)
  deriving DecidableEq, Repr

namespace Walk

/-- The most bytes that a name may have. -/
def nameLimit : Nat := 255

/-- The number of bytes from which on a path is too long. -/
def pathLimit : Nat := 4096

/-- The most links that one walk follows. -/
def linkLimit : Nat := 40

/-- The names of a path; a final slash asks for a directory, as a final dot does. -/
def names (path : Text) : List Text :=
  let parts := (Text.splitOn '/' path).filter fun part => !part.isEmpty
  if path.getLast? = some '/' then parts ++ [['.']] else parts

/-- The place where the walk of a path begins. -/
def start (base : Place) (path : Text) : Place :=
  match path with
  | '/' :: _ => []
  | _ => base

/--
Walks names from a directory, given what is in it. `onLink` goes on with the walk from a place
with the names of a link and those left; the last name is followed if it is a link and
`follow` says so.
-/
def stepWith (s : Store) (follow : Bool)
    (onLink : Place → List Text → Except Errno Landing) :
    Store → Place → List Text → Except Errno Landing
  | _, here, [] => .ok (.found here .directory)
  | inside, here, name :: rest =>
    if name = "." then stepWith s follow onLink inside here rest
    else if name = ".." then
      stepWith s follow onLink (s.within here.dropLast) here.dropLast rest
    else if Text.byteLength name > nameLimit then .error .nameTooLong
    else
      let place := here ++ [name]
      let inner := inside.enter name
      match inner.get? [] with
      | none => if rest.isEmpty then .ok (.vacant place) else .error .noEntry
      | some .directory => stepWith s follow onLink inner place rest
      | some (.file mode bytes) =>
        if rest.isEmpty then .ok (.found place (.file mode bytes)) else .error .notDirectory
      | some (.link target) =>
        if rest.isEmpty && !follow then .ok (.found place (.link target))
        else onLink (start here target) (names target ++ rest)

/-- Walks names from a directory, following at most `links` links. -/
def along (s : Store) (follow : Bool) : Nat → Place → List Text → Except Errno Landing
  | 0, here => stepWith s follow (fun _ _ => .error .tooManyLinks) (s.within here) here
  | links + 1, here => stepWith s follow (along s follow links) (s.within here) here

end Walk

namespace Store

/-- Walks a path from a working directory. -/
def find (s : Store) (base : Place) (follow : Bool) (path : Text) : Except Errno Landing :=
  if path.isEmpty then .error .noEntry
  else if Text.byteLength path ≥ Walk.pathLimit then .error .nameTooLong
  else Walk.along s follow Walk.linkLimit (Walk.start base path) (Walk.names path)

end Store
end NoteTemplates
