import NoteTemplates.Store.Basic

/-!
# Changes

What has to be done to a file system so that it holds what a store holds, given another
store that describes it as it is.
-/

namespace NoteTemplates

/-- One change of a file system. -/
inductive Change where
  | put (place : Place) (entry : Entry)
  | move (source target : Place)
  | takeAway (place : Place)
  deriving DecidableEq, Repr

namespace Store

/-- The places at which a store has something. -/
def places (s : Store) : List Place :=
  s.entries.map (·.1)

/-- The entries of the second store that the first does not have. -/
def additions (before after : Store) : List (Place × Entry) :=
  after.entries.filter fun (p, e) => before.get? p ≠ some e

/-- The places of the first store at which the second has nothing. -/
def removals (before after : Store) : List Place :=
  before.places.filter fun p => (after.get? p).isNone

/-- What leads from the first store to the second; an entry that only moved is moved. -/
def changes (before after : Store) : List Change :=
  match before.removals after, before.additions after with
  | [source], [(target, entry)] =>
    if before.get? source = some entry then [.move source target]
    else [.takeAway source, .put target entry]
  | gone, added => gone.map .takeAway ++ added.map fun (p, e) => .put p e

end Store
end NoteTemplates
