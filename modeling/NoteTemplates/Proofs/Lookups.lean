import NoteTemplates.Proofs.Listings
import NoteTemplates.Proofs.Scaffolding

/-!
# Looking up templates

A query means the first template of a catalog that has it among its keys: its name, its name
behind its category, the name of its file, and that without the ending. A template whose own
name looks like the name of a file is found under it, before the template of that file if it
comes first in the catalog. No other key of another template stands in the way of the name of
a file: names behind a category have a slash, the names of files differ, and a file whose
name without the ending is that of another file comes after it.

Input: a catalog that was loaded, as `Catalog.IsOf` describes it.

Results: what is found (`find_eq_ok`, `find_eq_error`), which template the name of a file
finds (`find_filename_iff`), and what editing and deleting do with it (`filename_addresses`).
-/

namespace NoteTemplates

open Effect

namespace Catalog

variable {templates : List Template} {query : Text} {t : Template}

/-- The first template of a catalog that a query names. -/
def IsFirst (templates : List Template) (query : Text) (t : Template) : Prop :=
  ∃ before after, templates = before ++ t :: after ∧ query ∈ t.keys ∧
    ∀ u ∈ before, query ∉ u.keys

theorem any_keys_iff : t.keys.any (· = query) = true ↔ query ∈ t.keys := by
  simp

theorem find_eq_ok : find templates query = .ok t ↔ IsFirst templates query t := by
  have hfind : find templates query = .ok t ↔
      (templates.find? fun t => t.keys.any (· = query)) = some t := by
    rw [find]
    split
    · rename_i u hu
      simp [hu]
    · rename_i hnone
      simp [hnone]
  rw [hfind, List.find?_eq_some_iff_append, IsFirst]
  simp only [any_keys_iff, Bool.not_eq_true', Bool.eq_false_iff, Ne]
  tauto

/-- A query that names no template is refused. -/
theorem find_of_notMem (h : ∀ t ∈ templates, query ∉ t.keys) :
    find templates query = .error { kind := .templateNotFound, detail := query } := by
  rw [find, List.find?_eq_none.mpr fun t ht => by simpa using h t ht]

end Catalog

namespace Filename

/-- One more ending belongs to the name. -/
theorem ofText_append_suffix {filename base : Text} {parts : Filename}
    (hfilename : filename = base ++ suffix)
    (hshort : (beforeDash filename).length ≤ Text.digitLimit)
    (h : ofText filename = .ok parts) :
    ofText (filename ++ suffix) = .ok { parts with name := parts.name ++ suffix } := by
  have hbase : Text.dropSuffix suffix filename = base := by
    rw [hfilename, Text.dropSuffix_append]
  rcases ofText_cases filename with ⟨first, category, name, hfirst, hcategory, hparts⟩ | herr
  · have hlonger : Text.dropSuffix suffix (filename ++ suffix) =
        first ++ '-' :: (category ++ '-' :: (name ++ suffix)) := by
      rw [Text.dropSuffix_append, hfilename, ← hbase, hparts]
      simp
    have hshort' : (beforeDash (filename ++ suffix)).length ≤ Text.digitLimit := by
      rwa [beforeDash_eq hfirst hlonger, ← beforeDash_eq hfirst hparts]
    rw [ofText_of_dropSuffix_eq hfirst hcategory hshort hparts] at h
    rw [ofText_of_dropSuffix_eq hfirst hcategory hshort' hlonger]
    split at h
    · cases h
    · rename_i hdigits
      cases h
      rw [if_neg hdigits]
  · rw [herr] at h
    cases h

end Filename

namespace Template

variable {t u : Template} {around : Surroundings} {s : Store} {path : Path} {place : Place}

/-- A template is read from a file of a directory, which can be found by its name. -/
structure IsIn (around : Surroundings) (s : Store) (path : Path) (place : Place)
    (t : Template) : Prop where
  isName : Path.isName t.filename = true
  candidate : Catalog.IsCandidate s around.base path.toText (s.children place) t.filename
  read : Catalog.item around s path.toText t.filename = .ok t
  named : ∃ parts, Filename.ofText t.filename = .ok parts ∧ t.priority = parts.priority ∧
    t.category = parts.category ∧ t.name = parts.name
  short : (Filename.beforeDash t.filename).length ≤ Text.digitLimit
  whole : '\x00' ∉ (path.child t.filename).toText
  leads : ∃ e, e ≠ .directory ∧ s.get? (place ++ [t.filename]) = some e ∧
    s.find around.base false (path.child t.filename).toText =
      .ok (.found (place ++ [t.filename]) e)

theorem mem_keys_iff {query : Text} :
    query ∈ t.keys ↔
      t.name = query ∨ t.displayName = query ∨ t.filename = query ∨ t.stem = query := by
  simp [keys, eq_comm]

theorem IsIn.slash_notMem (h : t.IsIn around s path place) : '/' ∉ t.filename :=
  Path.Step.slash_notMem ⟨t.filename, h.isName⟩

/-- A name behind a category is not the name of a file. -/
theorem IsIn.displayName_ne (h : t.IsIn around s path place) (u : Template) :
    u.displayName ≠ t.filename := by
  intro heq
  refine h.slash_notMem (heq ▸ ?_)
  simp [displayName]

/-- The name of a file is the stem and the ending. -/
theorem IsIn.filename_eq (h : t.IsIn around s path place) :
    t.filename = t.stem ++ Filename.suffix := by
  obtain ⟨base, hbase⟩ := Text.endsWith_iff.mp h.candidate.1
  rw [stem, ← hbase, Text.dropSuffix_append]

/-- A template whose stem is the name of another file comes after the template of that file. -/
theorem IsIn.rank_lt_of_stem_eq (ht : t.IsIn around s path place)
    (hu : u.IsIn around s path place) (h : u.stem = t.filename) : t.rank < u.rank := by
  obtain ⟨parts, hparts, hpriority, hcategory, hname⟩ := ht.named
  obtain ⟨parts', hparts', hpriority', hcategory', hname'⟩ := hu.named
  have hlonger := Filename.ofText_append_suffix ht.filename_eq ht.short hparts
  rw [hu.filename_eq, h, hlonger] at hparts'
  cases hparts'
  rw [rank_lt_rank]
  refine Or.inr ⟨by rw [hpriority, hpriority'], Or.inr ⟨by rw [hcategory, hcategory'], Or.inl ?_⟩⟩
  have hnil : ([] : Text) < Filename.suffix := by decide
  rw [hname, hname']
  simpa using List.Lex.append_left (· < ·) hnil parts.name

end Template

namespace Catalog

variable {around : Surroundings} {s : Store} {path : Path} {place : Place}
  {catalog before after : List Template} {t u : Template}

section Files

variable {name : Text} {landing : Landing}

/-- A name in a directory as a path is what it is as a text, but for a leading dot. -/
theorem toText_child_cases (p : Path) (hname : Path.isName name = true) :
    (p.child name).toText = Disk.inside p.toText name ∨
      (p.child name).toText = name ∧ Disk.inside p.toText name = ['.', '/'] ++ name := by
  rw [Path.child_of_isName p hname]
  by_cases h : p.steps ≠ [] ∨ p.anchor ≠ .here
  · exact Or.inl (Path.inside_eq_toText_snoc ⟨name, hname⟩ h).symm
  · obtain ⟨anchor, steps⟩ := p
    obtain ⟨rfl, rfl⟩ : steps = [] ∧ anchor = .here := by simpa using h
    exact Or.inr ⟨rfl, rfl⟩

theorem byteLength_child_le (p : Path) (hname : Path.isName name = true) :
    Text.byteLength (p.child name).toText ≤ Text.byteLength (Disk.inside p.toText name) := by
  rcases toText_child_cases p hname with heq | ⟨heq, hinside⟩
  · rw [heq]
  · rw [heq, hinside, Text.byteLength_append]
    omega

theorem nul_notMem_child {p : Path} (hname : Path.isName name = true)
    (hp : '\x00' ∉ p.toText) (hnul : '\x00' ∉ name) : '\x00' ∉ (p.child name).toText := by
  rcases toText_child_cases p hname with heq | ⟨heq, -⟩
  · rw [heq]
    exact Disk.nul_notMem_inside hp hnul
  · rwa [heq]

/-- The path of a file that can be read leads to its entry, which may be a link to it. -/
theorem find_child {e : Entry} (hname : Path.isName name = true) (hup : name ≠ "..")
    (hfound : s.find around.base true path.toText = .ok (.found place .directory))
    (hread : s.find around.base true (Disk.inside path.toText name) = .ok landing)
    (hentry : s.get? (place ++ [name]) = some e) :
    s.find around.base false (path.child name).toText = .ok (.found (place ++ [name]) e) := by
  let n : Path.Step := ⟨name, hname⟩
  have hlength := Disk.byteLength_le_of_find_inside hname hup hread
  have hshorter : Text.byteLength (path.snoc n).toText ≤
      Text.byteLength (Disk.inside path.toText n.val) := by
    rw [← Path.child_of_isName path hname]
    exact byteLength_child_le path hname
  rw [Path.child_of_isName path hname]
  have hread' : s.find around.base true (path.snoc n).toText = .ok landing := by
    rw [Path.find_inside s around.base true path n] at hread
    split at hread
    · cases hread
    · rw [Path.find_toText, if_neg (by omega), Path.parts_snoc, Path.origin_snoc]
      exact hread
  rcases Path.find_last s around.base (path.steps_snoc n) with
    ⟨directory, left, hdirectory, hlast⟩ | ⟨-, herr⟩
  · rw [Path.parent_snoc, hfound] at hdirectory
    cases hdirectory
    rw [hlast, Walk.along_singleton (n.isProper hup) s left place (by simp),
      if_neg (Nat.not_lt.mpr hlength), hentry]
    rfl
  · obtain ⟨errno, herr⟩ := herr true
    rw [herr] at hread'
    cases hread'

theorem mem_sift {items : List (Except Failure Template)} : t ∈ (sift items).1 ↔ .ok t ∈ items := by
  induction items with
  | nil => simp [sift]
  | cons item items ih =>
      cases item with
      | ok u => simp [sift, ih]
      | error f => simp [sift, ih]

/-- A template of a result can be found by the name of its file. -/
theorem Accounts.isIn {names : List Text} {result : List Template × List Failure}
    (hs : s.IsSound) (hnul : '\x00' ∉ path.toText)
    (hfound : s.find around.base true path.toText = .ok (.found place .directory))
    (h : Accounts around s path.toText (s.children place) names result)
    (ht : t ∈ result.1) : t.IsIn around s path place := by
  rw [h.result_eq, mem_sift, List.mem_map] at ht
  obtain ⟨name, hname, hitem⟩ := ht
  obtain ⟨-, e, hmem, hregular⟩ := (h.candidates name).mp hname
  have hdirectory : e ≠ .directory := by
    rintro rfl
    rcases hregular with hfile | ⟨hlink, -⟩
    · cases hfile
    · cases hlink
  obtain ⟨hisName, hup, hnulName⟩ := hs.name_of_mem_children hmem
  have hgives := h.gives name hname
  rw [hitem] at hgives
  cases hgives with
  | template found _ parsed named =>
      subst named
      obtain ⟨parts, target, declared, hparts, -, -, ht⟩ := Template.parse_eq_ok.mp parsed
      rw [Disk.name_ofText_inside _ hisName] at hparts
      have hentry := hs.mem_children.mp hmem
      exact ⟨hisName, (h.candidates t.filename).mp hname, hitem,
        ⟨parts, hparts, by rw [ht], by rw [ht], by rw [ht]⟩,
        Filename.length_beforeDash_le (Disk.byteLength_le_of_find_inside hisName hup found),
        nul_notMem_child hisName hnul hnulName, e, hdirectory, hentry,
        find_child hisName hup hfound found hentry⟩

end Files

/-- A catalog was loaded from a directory. -/
structure IsOf (around : Surroundings) (s : Store) (path : Path) (place : Place)
    (catalog : List Template) : Prop where
  ranked : ByRank catalog
  distinct : (catalog.map (·.filename)).Nodup
  files : ∀ t ∈ catalog, t.IsIn around s path place

/-- The templates of a directory, sorted, are a catalog of it. -/
theorem Accounts.isOf {names : List Text} {result : List Template × List Failure}
    (hs : s.IsSound) (hnul : '\x00' ∉ path.toText)
    (hfound : s.find around.base true path.toText = .ok (.found place .directory))
    (h : Accounts around s path.toText (s.children place) names result) :
    IsOf around s path place (sort result.1) := by
  have hperm : (sort result.1).Perm result.1 := List.mergeSort_perm _ _
  refine ⟨byRank_sort h.byFile, ?_, fun t ht => h.isIn hs hnul hfound (hperm.mem_iff.mp ht)⟩
  refine (hperm.map _).nodup_iff.mpr (List.pairwise_map.mpr ?_)
  exact h.byFile.imp fun hlt heq => absurd (heq ▸ hlt) (lt_irrefl _)

theorem IsOf.rank_lt (h : IsOf around s path place (before ++ t :: after)) (hu : u ∈ before) :
    u.rank < t.rank :=
  (List.pairwise_append.mp h.ranked).2.2 u hu t (by simp)

/-- Of the templates before a template, only those with the name of its file come up for it. -/
theorem IsOf.mem_keys_iff (h : IsOf around s path place (before ++ t :: after))
    (hu : u ∈ before) : t.filename ∈ u.keys ↔ u.name = t.filename := by
  have ht := h.files t (by simp)
  have hu' := h.files u (by simp [hu])
  have hrank := h.rank_lt hu
  have hdistinct : u.filename ≠ t.filename := by
    have hnodup := h.distinct
    rw [List.map_append, List.nodup_append] at hnodup
    exact hnodup.2.2 _ (List.mem_map_of_mem hu) _ (by simp)
  rw [Template.mem_keys_iff]
  constructor
  · rintro (hname | hdisplay | hfilename | hstem)
    · exact hname
    · exact absurd hdisplay (ht.displayName_ne u)
    · exact absurd hfilename hdistinct
    · exact absurd hrank (ht.rank_lt_of_stem_eq hu' hstem).asymm
  · exact Or.inl

/--
The name of a file finds the template of that file, if and only if no template before it has
the name of the file as its own name; else it finds the first of those.
-/
theorem IsOf.find_filename (h : IsOf around s path place (before ++ t :: after)) :
    ∃ u ∈ before ++ t :: after, find (before ++ t :: after) t.filename = .ok u ∧
      (u = t ↔ ∀ other ∈ before, other.name ≠ t.filename) ∧
      (u ≠ t → ∃ earlier later, before = earlier ++ u :: later ∧ u.name = t.filename ∧
        ∀ other ∈ earlier, other.name ≠ t.filename) := by
  have hself : t.filename ∈ t.keys := Template.mem_keys_iff.mpr (by simp)
  cases hfind : before.find? fun other => other.name = t.filename with
  | none =>
      have hother : ∀ other ∈ before, other.name ≠ t.filename := by
        simpa using List.find?_eq_none.mp hfind
      refine ⟨t, by simp, find_eq_ok.mpr ⟨before, after, rfl, hself, fun u hu => ?_⟩,
        iff_of_true rfl hother, fun hne => absurd rfl hne⟩
      rw [h.mem_keys_iff hu]
      exact hother u hu
  | some u =>
      obtain ⟨hname, earlier, later, rfl, hearlier⟩ := List.find?_eq_some_iff_append.mp hfind
      have hname' : u.name = t.filename := by simpa using hname
      have hearlier' : ∀ other ∈ earlier, other.name ≠ t.filename := by simpa using hearlier
      have hne : u ≠ t := by
        rintro rfl
        exact lt_irrefl _ (h.rank_lt (u := u) (by simp))
      refine ⟨u, by simp, find_eq_ok.mpr ⟨earlier, later ++ t :: after, by simp, ?_, ?_⟩,
        iff_of_false hne (fun hall => hall u (by simp) hname'),
        fun _ => ⟨earlier, later, rfl, hname', hearlier'⟩⟩
      · exact (h.mem_keys_iff (by simp)).mpr hname'
      · intro other hother
        rw [h.mem_keys_iff (by simp [hother])]
        exact hearlier' other hother

/--
Loading changes only the log. What is loaded is empty, or a catalog of the directory to which
the path of the templates leads.
-/
theorem load_ends {w : World} (hsound : w.store.IsSound) (settings : Settings)
    (around : Surroundings) :
    (∃ f events, (load settings).perform around w = (.error f, { w with events })) ∨
      ∃ catalog warnings events path,
        (load settings).perform around w = (.ok (catalog, warnings), { w with events }) ∧
        settings.templatesPath around.environment around.directory = .ok path ∧
        (catalog = [] ∨ ∃ place,
          w.store.find around.base true path.toText = .ok (.found place .directory) ∧
          (∃ entries, ((Disk.list path.toText).perform around w).1 = .ok entries) ∧
          IsOf around w.store path place catalog) := by
  cases hpath : settings.templatesPath around.environment around.directory with
  | error f => exact Or.inl ⟨f, w.events, perform_load_of_error hpath⟩
  | ok path =>
      rcases ofDirectory_ends hsound path.toText with ⟨f, hrun⟩ | ⟨failures, hrun⟩ |
        ⟨place, names, result, hfound, hlist, -, haccounts, hrun⟩
      · obtain ⟨events, hload⟩ := perform_load hpath hrun
        exact Or.inl ⟨f, events, hload⟩
      · obtain ⟨events, hload⟩ := perform_load hpath hrun
        exact Or.inr ⟨_, _, events, path, hload, rfl, Or.inl (List.mergeSort_nil)⟩
      · obtain ⟨events, hload⟩ := perform_load hpath hrun
        exact Or.inr ⟨_, _, events, path, hload, rfl,
          Or.inr ⟨place, hfound, ⟨w.store.children place, by rw [hlist]⟩,
            haccounts.isOf hsound (Disk.list_ok (by rw [hlist])).1 hfound⟩⟩

end Catalog

namespace Notebook

variable (book : Notebook) {around : Surroundings} {w : World} {query : Text} {t : Template}
  {path : Path}

/-- Opens a file in the editor. -/
def openAt (path : Path) : Effect Path := do
  Editor.openFile path.toText (← book.editor)
  return path

section Using

variable {catalog : List Template} {warnings : List Text} {v : World}

/-- A template is looked up in the catalog that is loaded. -/
theorem perform_find (hload : book.load.perform around w = (.ok (catalog, warnings), v))
    (query : Text) :
    (book.find query).perform around w =
      ((Catalog.find catalog query).mapError Failure.template, v) := by
  rw [find, perform_bind_ok around w hload]
  exact perform_settle around v _

theorem perform_pathOf
    (hpath : book.settings.templatesPath around.environment around.directory = .ok path)
    (t : Template) : (book.pathOf t).perform around w = (.ok (path.child t.filename), w) := by
  simp only [pathOf, templatesPath, perform_bind, perform_read, perform_settle, hpath]
  rfl

/-- Editing opens the file of the template that is found. -/
theorem perform_edit (hload : book.load.perform around w = (.ok (catalog, warnings), v))
    (hfind : Catalog.find catalog query = .ok t)
    (hpath : book.settings.templatesPath around.environment around.directory = .ok path) :
    (book.edit query).perform around w =
      (book.openAt (path.child t.filename)).perform around v := by
  have hfind' : (book.find query).perform around w = (.ok t, v) := by
    rw [book.perform_find hload, hfind]
    rfl
  rw [edit, perform_bind_ok around w hfind']
  exact perform_bind_ok around v (book.perform_pathOf hpath t) _

/-- Deleting takes away the file of the template that is found, if that is confirmed. -/
theorem perform_delete (hload : book.load.perform around w = (.ok (catalog, warnings), v))
    (hfind : Catalog.find catalog query = .ok t)
    (hpath : book.settings.templatesPath around.environment around.directory = .ok path) :
    (book.delete query).perform around w =
      (book.removeAt t (path.child t.filename)).perform around v := by
  have hfind' : (book.find query).perform around w = (.ok t, v) := by
    rw [book.perform_find hload, hfind]
    rfl
  rw [delete, perform_bind_ok around w hfind']
  exact perform_bind_ok around v (book.perform_pathOf hpath t) _

end Using

section Removing

variable {place : Place} {e : Entry} {v : World} {outcome : Except Failure Bool × World}

/-- How taking away the file of a template at a place ends, by what stands in the way of it. -/
inductive Removal (around : Surroundings) (t : Template) (path : Path) (place : Place)
    (w : World) : Except Failure Bool × World → Prop
  | unanswered {f : Failure} {v : World}
      (asked : (book.confirmer.ask (deleteQuestion t)).perform around w = (.error f, v)) :
      Removal around t path place w (.error f, v)
  | declined {answer : Text} {v : World} {events : List Log.Event}
      (asked : (book.confirmer.ask (deleteQuestion t)).perform around w = (.ok answer, v))
      (no : isYes answer = false) :
      Removal around t path place w (.ok false, { v with events })
  | refused {answer : Text} {f : Failure} {v : World}
      (asked : (book.confirmer.ask (deleteQuestion t)).perform around w = (.ok answer, v))
      (yes : isYes answer = true)
      (failed : (Disk.remove path.toText).perform around v = (.error f, v)) :
      Removal around t path place w
        (.error (Materialization.asTemplateError .deleteFailed path f), v)
  | removed {answer : Text} {v : World} {events : List Log.Event}
      (asked : (book.confirmer.ask (deleteQuestion t)).perform around w = (.ok answer, v))
      (yes : isYes answer = true)
      (succeeded : (Disk.remove path.toText).perform around v =
        (.ok (), v.moved (w.store.erase place))) :
      Removal around t path place w (.ok true, { v.moved (w.store.erase place) with events })

theorem removeAt_outcome
    (hleads : w.store.find around.base false path.toText = .ok (.found place e)) :
    Removal book around t path place w ((book.removeAt t path).perform around w) := by
  rw [removeAt, perform_bind]
  have hstore := (book.confirmer.quiet_ask (deleteQuestion t)).store_eq around w
  cases hask : (book.confirmer.ask (deleteQuestion t)).perform around w with
  | mk result v =>
      rw [hask] at hstore
      cases result with
      | error f => exact .unanswered hask
      | ok answer =>
          dsimp only
          cases hyes : isYes answer with
          | false => exact .declined hask hyes
          | true =>
              simp only [Bool.not_true, Bool.false_eq_true, if_false, perform_bind,
                Materialization.perform_reporting]
              rcases Disk.remove_cases around v path.toText with
                ⟨f, hf⟩ | ⟨p, e', -, hlands, -, hremoved⟩
              · rw [hf]
                exact .refused hask hyes hf
              · rw [hstore] at hlands hremoved
                rw [hleads] at hlands
                cases hlands
                rw [hremoved]
                exact .removed hask hyes hremoved

/-- The file system is changed by a removal that is confirmed and succeeds, and by no other. -/
theorem Removal.store_eq (h : Removal book around t path place w outcome) :
    outcome.2.store = if outcome.1 = .ok true then w.store.erase place else w.store := by
  have hask := (book.confirmer.quiet_ask (deleteQuestion t)).store_eq around w
  cases h with
  | unanswered asked =>
      rw [asked] at hask
      simpa using hask
  | declined asked no =>
      rw [asked] at hask
      simpa using hask
  | refused asked yes failed =>
      rw [asked] at hask
      simpa using hask
  | removed asked yes succeeded => simp

end Removing

/--
Which template the full name of a file addresses, for every template of a catalog that was
loaded. It is the template of that file, if and only if no template before it in the catalog
has the full name of the file as its own name; else it is the first of those. Editing opens
the file of the template that is addressed, and deleting asks about that template and takes
away that file or nothing.
-/
theorem filename_addresses (hsound : w.store.IsSound) {before after : List Template}
    {warnings : List Text}
    (hload : (book.load.perform around w).1 = .ok (before ++ t :: after, warnings)) :
    ∃ u path place,
      Catalog.find (before ++ t :: after) t.filename = .ok u ∧
      (u = t ↔ ∀ other ∈ before, other.name ≠ t.filename) ∧
      (u ≠ t → ∃ earlier later, before = earlier ++ u :: later ∧ u.name = t.filename ∧
        ∀ other ∈ earlier, other.name ≠ t.filename) ∧
      book.settings.templatesPath around.environment around.directory = .ok path ∧
      w.store.find around.base true path.toText = .ok (.found place .directory) ∧
      (∃ e, e ≠ .directory ∧ w.store.find around.base false (path.child u.filename).toText =
        .ok (.found (place ++ [u.filename]) e)) ∧
      (∃ events, (book.edit t.filename).perform around w =
        (book.openAt (path.child u.filename)).perform around { w with events }) ∧
      (∃ events, Removal book around u (path.child u.filename) (place ++ [u.filename])
        { w with events } ((book.delete t.filename).perform around w)) ∧
      ((book.delete t.filename).perform around w).2.store =
        if ((book.delete t.filename).perform around w).1 = .ok true then
          w.store.erase (place ++ [u.filename])
        else w.store := by
  rcases Catalog.load_ends hsound book.settings around with
    ⟨f, events, hrun⟩ | ⟨catalog, warnings', events, path, hrun, hpath, hcatalog⟩
  · have hrun : book.load.perform around w = _ := hrun
    rw [hrun] at hload
    cases hload
  · have hrun : book.load.perform around w = _ := hrun
    rw [hrun] at hload
    cases hload
    rcases hcatalog with hnil | ⟨place, hfound, -, hof⟩
    · simp at hnil
    · obtain ⟨u, hu, hfind, hiff, hfirst⟩ := hof.find_filename
      obtain ⟨e, he, -, hleads⟩ := (hof.files u hu).leads
      refine ⟨u, path, place, hfind, hiff, hfirst, hpath, hfound, ⟨e, he, hleads⟩,
        ⟨events, book.perform_edit hrun hfind hpath⟩, ?_⟩
      have hremoval : Removal book around u (path.child u.filename) (place ++ [u.filename])
          { w with events } ((book.delete t.filename).perform around w) := by
        rw [book.perform_delete hrun hfind hpath]
        exact book.removeAt_outcome hleads
      exact ⟨⟨events, hremoval⟩, hremoval.store_eq⟩

section Shadowing

/-- A template. -/
def masked : Template :=
  { filename := "5-x-y.md", priority := 5, category := "x", name := "y", body := "hi" }

/-- A template whose own name is that of the file of the other one. -/
def masking : Template :=
  { filename := "1-a-5-x-y.md.md", priority := 1, category := "a", name := "5-x-y.md"
    body := "ho" }

/-- A directory with both of them, and the notebook that it belongs to; a yes is replied. -/
def maskedWorld : World :=
  { store :=
      { entries :=
          [(["t"], .directory), (["t", "5-x-y.md"], .file 0o644 (Utf8.encode "hi")),
            (["t", "1-a-5-x-y.md.md"], .file 0o644 (Utf8.encode "ho"))] }
    replies := [.line " y"] }

def maskedBook : Notebook :=
  { settings := { templates := some (Path.ofText "/t") }, confirmer := .script }

theorem isSound_masked : maskedWorld.store.IsSound :=
  ⟨⟨by decide +kernel, by decide +kernel⟩, by decide +kernel, by decide +kernel⟩

theorem templatesPath_masked :
    maskedBook.settings.templatesPath Surroundings.plain.environment
      Surroundings.plain.directory = .ok (Path.ofText "/t") := by
  decide +kernel

theorem find_masked :
    maskedWorld.store.find Surroundings.plain.base true (Path.ofText "/t").toText =
      .ok (.found ["t"] .directory) := by
  decide +kernel

theorem load_masked :
    (maskedBook.load.perform .plain maskedWorld).1 = .ok ([masking] ++ masked :: [], []) := by
  have hlinks : ∀ entry ∈ maskedWorld.store.children ["t"], entry.2.isLink = false := by
    decide +kernel
  have hnames : (Catalog.fileNames (maskedWorld.store.children ["t"])).mergeSort Text.le =
      [masking.filename, masked.filename] := by
    have hfiles : Catalog.fileNames (maskedWorld.store.children ["t"]) =
        ["5-x-y.md", "1-a-5-x-y.md.md"] := by
      decide +kernel
    rw [hfiles]
    cbv
  have hread : (Catalog.readTemplates (Path.ofText "/t").toText
      [masking.filename, masked.filename]).perform .plain maskedWorld =
      (.ok ([masking, masked], []), maskedWorld) := by decide +kernel
  have hlist : (Disk.list (Path.ofText "/t").toText).perform .plain maskedWorld =
      (.ok (maskedWorld.store.children ["t"]), maskedWorld) := by decide +kernel
  exact Catalog.load_of_files templatesPath_masked hlist hlinks hnames hread (by decide +kernel)

/-- The full name of a file can find the template of another one. -/
theorem find_filename_masked :
    ∃ catalog warnings,
      (maskedBook.load.perform .plain maskedWorld).1 = .ok (catalog, warnings) ∧
      masked ∈ catalog ∧ Catalog.find catalog masked.filename = .ok masking ∧
      Catalog.find catalog masked.filename ≠ .ok masked :=
  ⟨_, _, load_masked, by simp, by decide +kernel, by decide +kernel⟩

/-- Then the other file is opened, and asked about, and taken away. -/
theorem filename_addresses_masking :
    maskedWorld.store.IsSound ∧
      (maskedBook.load.perform .plain maskedWorld).1 = .ok ([masking] ++ masked :: [], []) ∧
      ∃ events, Removal maskedBook .plain masking (Path.ofText "/t/1-a-5-x-y.md.md")
        ["t", "1-a-5-x-y.md.md"] { maskedWorld with events }
        ((maskedBook.delete masked.filename).perform .plain maskedWorld) := by
  obtain ⟨u, path, place, hfind, -, -, hpath, hfound, -, -, ⟨events, hremoval⟩, -⟩ :=
    filename_addresses maskedBook isSound_masked load_masked
  have hu : Catalog.find ([masking] ++ masked :: []) masked.filename = .ok masking := by
    decide +kernel
  rw [hu] at hfind
  rw [templatesPath_masked] at hpath
  cases hfind
  cases hpath
  rw [find_masked] at hfound
  cases hfound
  exact ⟨isSound_masked, load_masked, events, hremoval⟩

end Shadowing

end Notebook

end NoteTemplates
