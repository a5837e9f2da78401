import NoteTemplates.Template.Basic

/-!
# Catalogs

A catalog is a list of templates in the order of priority, category and name. A query names
a template by any of four keys; the first template in catalog order that has the query
among its keys is meant. Templates are shown by category, the categories in the order in
which they first come up.
-/

namespace NoteTemplates
namespace Template

/-- Whether a template comes before another or has the same place in a catalog. -/
def precedes (t u : Template) : Bool :=
  t.priority < u.priority ||
    (t.priority = u.priority &&
      if t.category = u.category then Text.le t.name u.name
      else Text.le t.category u.category)

/-- The texts that name a template. -/
def keys (t : Template) : List Text :=
  [t.name, t.displayName, t.filename, t.stem]

end Template

namespace Catalog

/-- Templates in catalog order; those with the same place keep their order. -/
def sort (templates : List Template) : List Template :=
  templates.mergeSort Template.precedes

/-- The first template that a query names. -/
def find (templates : List Template) (query : Text) : Except TemplateError Template :=
  match templates.find? fun t => t.keys.any (· = query) with
  | some t => .ok t
  | none => .error { kind := .templateNotFound, detail := query }

/-- The members of a list, each at its first place only. -/
def firstOccurrences : List Text → List Text
  | [] => []
  | c :: cs => c :: (firstOccurrences cs).filter (· ≠ c)

/-- The templates of each category, the categories in the order of their first templates. -/
def groups (templates : List Template) : List (Text × List Template) :=
  (firstOccurrences (templates.map (·.category))).map fun c =>
    (c, templates.filter (·.category = c))

/-- The templates in the order in which groups show them. -/
def displayed (templates : List Template) : List Template :=
  (groups templates).flatMap (·.2)

end Catalog
end NoteTemplates
