import NoteTemplates.Text.Basic

/-!
# Bindings

Names with values, in the order in which the names first came up. The variables of an
environment, the values typed for a template, and its built-in values are all bindings of
texts; a file of settings may also name something and give it no value.
-/

namespace NoteTemplates

/-- Names with values of one kind. -/
abbrev Table (α : Type) := List (Text × α)

namespace Table

variable {α : Type}

/-- The value of a name. -/
def get? (t : Table α) (name : Text) : Option α :=
  t.lookup name

/-- A name given a value; a name that is there keeps its place. -/
def put : Table α → Text → α → Table α
  | [], name, value => [(name, value)]
  | (n, v) :: t, name, value => if n = name then (n, value) :: t else (n, v) :: put t name value

/-- A name taken out. -/
def remove (t : Table α) (name : Text) : Table α :=
  t.filter fun (n, _) => n ≠ name

/-- The table that a list of pairs makes; the last value of a name counts. -/
def ofList (pairs : List (Text × α)) : Table α :=
  pairs.foldl (fun t (name, value) => put t name value) []

/-- The value of the last name that is the given one but for capitals. -/
def getFolded? (t : Table α) (name : Text) : Option α :=
  (t.reverse.find? fun (n, _) => n.map Char.toLower = name).map (·.2)

end Table

/-- Names with texts. -/
abbrev Bindings := Table Text

end NoteTemplates
