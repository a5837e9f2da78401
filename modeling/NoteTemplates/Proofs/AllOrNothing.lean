import NoteTemplates.Proofs.Operations

/-!
# All or nothing

Writing the note of a template ends in one of three ways. It fails before anything is
written, and the file system is as it was. It fails while the note is written, and at most
directories on the way to the target are new. Or the note is written, and besides such
directories the whole file at the place of the target is all that is new; that is still so
if the editor fails.

The path of the target leads to the note afterwards, unless the target was a link that led
nowhere and over which its own path leads: the note is then put in the stead of that link,
and the path leads nowhere without it.
-/

namespace NoteTemplates

open Effect

namespace Store

/-- A path ends at a link, and its way to that end leads over the link itself. -/
def InItsOwnWay (s : Store) (base : Place) (path : Text) : Prop :=
  ∃ p target, s.find base false path = .ok (.found p (.link target)) ∧
    (s.erase p).find base false path ≠ .ok (.vacant p)

section InItsOwnWay

variable {s t : Store} {base : Place} {path : Text} {p : Place}

theorem find_without_link {target : Text} {mode : Nat} {bytes : Bytes}
    (hways : ∀ q e, s.get? q = some e → e.isFile = false → q ≠ p → t.get? q = some e)
    (hfile : t.get? p = some (.file mode bytes))
    (h : s.find base false path = .ok (.found p (.link target))) :
    (s.erase p).find base false path = .ok (.vacant p) ∨
      ((s.erase p).find base false path ≠ .ok (.vacant p) ∧
        ∃ errno, t.find base true path = .error errno) := by
  have hwalk := find_eq_along h
  rw [hwalk] at h ⊢
  rw [hwalk]
  exact Walk.along_without_link hways hfile _ _ _ h

/--
A file put where a path ends, at a vacant place or in the stead of a link, is what the path
leads to then, if and only if the path is not in its own way.
-/
theorem find_insert_file_iff {landing : Landing}
    (h : s.find base false path = .ok landing)
    (hlink : ∀ q e, landing = .found q e → e.isLink = true) (mode : Nat) (bytes : Bytes) :
    (∀ follow, (s.insert landing.place (.file mode bytes)).find base follow path =
        .ok (.found landing.place (.file mode bytes))) ↔
      ¬ s.InItsOwnWay base path := by
  have hfile := get?_insert_self s landing.place (.file mode bytes)
  cases landing with
  | vacant p =>
      have hways := (keeps_insert_of_vacant (get?_of_find_vacant h) (.file mode bytes)).ways
      constructor
      · rintro - ⟨q, target, hfind, -⟩
        rw [h] at hfind
        cases hfind
      · intro _ follow
        have hfound : (s.insert p (.file mode bytes)).find base follow path = _ :=
          find_of_find_vacant hways (by simp) (by simp) h
        rw [get?_insert_self] at hfound
        exact hfound
  | found p e =>
      have he := hlink p e rfl
      cases e with
      | file mode' bytes' => cases he
      | directory => cases he
      | link target =>
          have hways : ∀ q e, s.get? q = some e → e.isFile = false → q ≠ p →
              (s.insert p (.file mode bytes)).get? q = some e := by
            intro q e hq _ hne
            rwa [get?_insert_of_ne s _ hne]
          constructor
          · rintro hfound ⟨q, target', hfind, hway⟩
            rw [h] at hfind
            cases hfind
            rcases find_without_link hways hfile h with hvacant | ⟨-, errno, herr⟩
            · exact hway hvacant
            · rw [Landing.place] at hfound
              rw [hfound true] at herr
              cases herr
          · intro hno follow
            have hvacant : (s.erase p).find base false path = .ok (.vacant p) := by
              by_contra hway
              exact hno ⟨p, target, h, hway⟩
            have hkeeps : (s.insert p (.file mode bytes)).KeepsWays (s.erase p) := by
              intro q e hq he
              by_cases hqp : q = p
              · rw [hqp, get?_erase_self] at hq
                cases hq
              · rw [get?_erase_of_ne s hqp] at hq
                exact hways q e hq he hqp
            have hfound : (s.insert p (.file mode bytes)).find base follow path = _ :=
              find_of_find_vacant hkeeps (by simp) (by simp) hvacant
            rw [get?_insert_self] at hfound
            exact hfound

end InItsOwnWay

end Store

namespace Materialization

/-- A note that was written is left alone by the editor, however it ends. -/
theorem createAndOpen_of_created {content : Text} {target : Path} {calledOff : Bool}
    {around : Surroundings} {v u : World}
    (h : (create content target calledOff).perform around v = (.ok target, u))
    (editor : Option Text) :
    ∃ result x,
      (createAndOpen content target editor calledOff).perform around v = (result, x) ∧
      (∀ p, result = .ok p → p = target) ∧
      x.history = u.history := by
  have hquiet := (Editor.calm_openFile target.toText editor).quiet around u
  rw [createAndOpen, perform_bind_ok around v h, perform_bind]
  cases hopened : (Editor.openFile target.toText editor).perform around u with
  | mk result x =>
      rw [hopened] at hquiet
      cases result with
      | error f => exact ⟨.error f, x, rfl, fun p hp => (by cases hp), hquiet⟩
      | ok =>
          refine ⟨.ok target, x, rfl, fun p hp => ?_, hquiet⟩
          cases hp
          rfl

end Materialization

namespace Notebook

open Materialization

/-- All entries are still there, and what is new are directories on the way to a target. -/
def OnlyDirectoriesNew (around : Surroundings) (target : Path) (s t : Store) : Prop :=
  (∀ q e, s.get? q = some e → t.get? q = some e) ∧
  ∀ q e, t.get? q = some e → s.get? q ≠ some e →
    s.get? q = none ∧ e = .directory ∧
      ∃ r : Path, r.OnTheWay target.parent ∧
        t.find around.base true r.toText = .ok (.found q .directory)

theorem onlyDirectoriesNew_prepared (around : Surroundings) (target : Path) (s : Store) :
    OnlyDirectoriesNew around target s (Disk.prepared around s target.parent) := by
  have hgrows := Disk.grows_prepared around s target.parent
  refine ⟨hgrows.keeps, fun q e hq hne => ?_⟩
  rcases hgrows.new hq with hold | hnew
  · exact absurd hold hne
  · exact hnew

/--
A note was written: after directories on the way were made, the whole file is at the place
to which the target leads, where nothing or a link was, and nothing else is new. The path of
the target leads to the file, if and only if it is not in its own way.
-/
def HoldsNote (around : Surroundings) (target : Path) (content : Text) (s t : Store) : Prop :=
  ∃ prepared place,
    OnlyDirectoriesNew around target s prepared ∧
    (prepared.find around.base false target.toText = .ok (.vacant place) ∨
      ∃ l, prepared.find around.base false target.toText = .ok (.found place (.link l))) ∧
    t.get? place = some (.file 0o644 (Utf8.encode content)) ∧
    (∀ q, q ≠ place → t.get? q = prepared.get? q) ∧
    ((∀ follow, t.find around.base follow target.toText =
        .ok (.found place (.file 0o644 (Utf8.encode content)))) ↔
      ¬ prepared.InItsOwnWay around.base target.toText)

theorem holdsNote_of_written {around : Surroundings} {target : Path} {content : Text}
    {w v : World} {landing : Landing} (h : Written around target content w landing v) :
    HoldsNote around target content w.store v.store := by
  refine ⟨Disk.prepared around w.store target.parent, landing.place,
    onlyDirectoriesNew_prepared around target w.store, ?_, ?_, ?_, ?_⟩
  · have hlands := h.lands
    cases hlanding : landing with
    | vacant p =>
        rw [hlanding] at hlands
        exact Or.inl hlands
    | found p e =>
        rw [hlanding] at hlands
        have he := h.link p e hlanding
        cases e with
        | file mode bytes => cases he
        | directory => cases he
        | link l => exact Or.inr ⟨l, hlands⟩
  · rw [h.store_eq, Store.get?_insert_self]
    rfl
  · intro q hq
    rw [h.store_eq, Store.get?_insert_of_ne _ _ hq]
  · rw [h.store_eq]
    exact Store.find_insert_file_iff h.lands h.link Disk.defaultMode (Utf8.encode content)

variable (book : Notebook)

/--
The note of a template is written whole or not at all, provided that no removal is made to
fail. If the preparation fails, the file system is as it was. If the writing fails, nothing
is new but directories on the way. If it succeeds, the note is there, however the editor
ends.
-/
theorem createNote_all_or_nothing (t : Template) (openEditor calledOff : Bool)
    (now : Option Moment) (around : Surroundings) (w : World)
    (hspares : around.Spares .remove) :
    match (book.prepare t now).perform around w with
    | (.error f, v) =>
        (book.createNote t openEditor calledOff now).perform around w = (.error f, v) ∧
        v.history = w.history
    | (.ok (content, target), v) =>
        v.history = w.history ∧
        match (create content target calledOff).perform around v with
        | (.error f, u) =>
            (book.createNote t openEditor calledOff now).perform around w = (.error f, u) ∧
            OnlyDirectoriesNew around target w.store u.store
        | (.ok _, u) =>
            ∃ result x,
              (book.createNote t openEditor calledOff now).perform around w = (result, x) ∧
              (∀ p, result = .ok p → p = target) ∧
              (openEditor = false → result = .ok target) ∧
              x.history = u.history ∧
              HoldsNote around target content w.store x.store := by
  have hquiet := book.quiet_prepare t now around w
  rw [createNote, perform_bind]
  cases hprepared : (book.prepare t now).perform around w with
  | mk result v =>
      rw [hprepared] at hquiet
      cases result with
      | error f => exact ⟨rfl, hquiet⟩
      | ok note =>
          obtain ⟨content, target⟩ := note
          refine ⟨hquiet, ?_⟩
          rcases create_cases around v content target calledOff with
            ⟨f, u, hf, -, hstore⟩ | ⟨landing, u, hok, hwritten⟩
          · rw [hf]
            refine ⟨?_, ?_⟩
            · cases openEditor with
              | false => exact hf
              | true =>
                  show (createAndOpen content target _ calledOff).perform around v = _
                  rw [createAndOpen, perform_bind, hf]
            · rw [hstore hspares, World.store_eq_of_history_eq hquiet]
              exact onlyDirectoriesNew_prepared around target w.store
          · rw [hok]
            have hnote : ∀ x : World, x.history = u.history →
                HoldsNote around target content w.store x.store := fun x hx =>
              holdsNote_of_written (hwritten.congr hquiet hx)
            cases openEditor with
            | false =>
                refine ⟨.ok target, u, hok, ?_, fun _ => rfl, rfl, hnote u rfl⟩
                intro p hp
                cases hp
                rfl
            | true =>
                obtain ⟨result, x, hrun, hpath, hx⟩ := createAndOpen_of_created hok
                  (book.settings.resolvedEditor around.environment)
                exact ⟨result, x, hrun, hpath, fun hno => (by cases hno), hx, hnote x hx⟩

/-- A notebook with its directory below the root. -/
def plain : Notebook :=
  { settings := { base := Path.ofText "/n" } }

/-- A template without questions whose notes go to a path. -/
def leadingTo (target : Text) : Template :=
  { filename := "1-n-a.md", priority := 1, category := "n", name := "a", body := "hi", target }

theorem createNote_all_or_nothing_new_directory :
    let w : World := { store := { entries := [(["d"], .directory)] } }
    let run := (plain.createNote (leadingTo "/d/e/x") false false none).perform .plain w
    Surroundings.plain.Spares .remove ∧ run.1 = .ok (Path.ofText "/d/e/x") ∧
      ∃ content, HoldsNote .plain (Path.ofText "/d/e/x") content w.store run.2.store := by
  intro w run
  have hspares := Surroundings.spares_plain .remove
  have hrun : run.1 = .ok (Path.ofText "/d/e/x") := by decide +kernel
  have h := plain.createNote_all_or_nothing (leadingTo "/d/e/x") false false none .plain w hspares
  refine ⟨hspares, hrun, ?_⟩
  split at h
  · rw [show run = _ from h.1] at hrun
    cases hrun
  · rename_i content target v hprepared
    obtain ⟨-, h⟩ := h
    split at h
    · rw [show run = _ from h.1] at hrun
      cases hrun
    · obtain ⟨result, x, hresult, hpath, -, -, hnote⟩ := h
      rw [show run = _ from hresult] at hrun ⊢
      rw [hpath _ hrun]
      exact ⟨content, hnote⟩

/-- A path that goes over a link forty times before it ends there. -/
def roundabout : Text :=
  '/' :: Text.joinWith "/" ((List.replicate 40 (["L", ".."] : List Text)).flatten ++ ["L".toList])

/-- A note can be written in the stead of a link that its own path needs. -/
example :
    let w : World := { store := { entries := [(["L"], .link "d"), (["d"], .directory)] } }
    let run := (create "hi" (Path.ofText roundabout) false).perform .plain w
    run.1 = .ok (Path.ofText roundabout) ∧
      run.2.store.entryAt? [] true (Path.ofText roundabout).toText = none := by
  decide +kernel

end Notebook

end NoteTemplates
