import NoteTemplates.Text.Utf8

/-!
# The store

A file system as a list of entries, each at its place. A place is the list of the names on
the way from the root, none of them a dot or a double dot; the root itself is always a
directory and has no entry. Entries are read, put and taken out by place; a place has at
most one entry that can be read.
-/

namespace NoteTemplates

/-- The names on the way from the root. -/
abbrev Place := List Text

/-- What is at a place: a file with its mode and its bytes, a directory, or a link. -/
inductive Entry where
  | file (mode : Nat) (bytes : Bytes)
  | directory
  | link (target : Text)
  deriving DecidableEq, Repr

/-- A file system. -/
structure Store where
  entries : List (Place × Entry) := []
  deriving DecidableEq, Repr

namespace Store

/-- The entry at a place. -/
def get? (s : Store) (p : Place) : Option Entry :=
  s.entries.lookup p

/-- The store without the entry at a place. -/
def erase (s : Store) (p : Place) : Store :=
  { entries := s.entries.filter fun (q, _) => q ≠ p }

/-- The store with an entry at a place, in the stead of any that was there. -/
def insert (s : Store) (p : Place) (e : Entry) : Store :=
  { entries := (p, e) :: (s.erase p).entries }

/-- The names and entries directly inside a directory. -/
def children (s : Store) (p : Place) : List (Text × Entry) :=
  s.entries.filterMap fun (q, e) =>
    match q.getLast? with
    | some name => if q.dropLast = p then some (name, e) else none
    | none => none

/-- The entries at any depth below a place, by their places from there. -/
def below (s : Store) (p : Place) : List (Place × Entry) :=
  s.entries.filterMap fun (q, e) =>
    if p.isPrefixOf q && q ≠ p then some (q.drop p.length, e) else none

/-- What is at a name and below it, by the places from there; the entry itself is at none. -/
def enter (s : Store) (name : Text) : Store :=
  { entries := s.entries.filterMap fun (q, e) =>
      match q with
      | first :: rest => if first = name then some (rest, e) else none
      | [] => none }

/-- What is at a place and below it, by the places from there. -/
def within (s : Store) (p : Place) : Store :=
  p.foldl enter s

/-- The store without an entry and without all that is below it. -/
def prune (s : Store) (p : Place) : Store :=
  { entries := s.entries.filter fun (q, _) => !p.isPrefixOf q }

end Store
end NoteTemplates
