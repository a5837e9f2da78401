import NoteTemplates.Proofs.Operations

/-!
# What writing replaces

Whether anything is at the target of a note is asked with links followed, but the note is
put in the stead of what is there when the last name is not followed. The two differ at a
link that leads nowhere. So a write that succeeds keeps every entry of the file system if
and only if its target is no link once the directories on the way are made; if it is one,
that link is lost and nothing else.
-/

namespace NoteTemplates

open Effect

namespace Materialization

variable {around : Surroundings} {target : Path} {content : Text} {w v : World}
  {landing : Landing}

/-- An entry is kept when a note is written, or is the link in whose stead the file is put. -/
theorem Written.kept_or_replaced (h : Written around target content w landing v) {q : Place}
    {e : Entry} (hq : w.store.get? q = some e) :
    v.store.get? q = some e ∨
      (∃ l, e = .link l) ∧ landing = .found q e ∧
        ∃ mode bytes, v.store.get? q = some (.file mode bytes) := by
  have hkept := (Disk.grows_prepared around w.store target.parent).keeps q e hq
  rw [h.store_eq]
  by_cases hplace : q = landing.place
  · right
    rw [hplace] at hkept
    cases e with
    | file mode bytes => cases h.isLink hkept
    | directory => cases h.isLink hkept
    | link l =>
        refine ⟨⟨l, rfl⟩, ?_, _, _, by rw [hplace, Store.get?_insert_self]⟩
        rw [hplace]
        exact h.eq_found hkept
  · left
    rwa [Store.get?_insert_of_ne _ _ hplace]

end Materialization

/-- The operations that write a note or the file of a template. -/
inductive Writer : Effect Path → Prop
  | create (content : Text) (target : Path) (calledOff : Bool) :
      Writer (Materialization.create content target calledOff)
  | createAndOpen (content : Text) (target : Path) (editor : Option Text) (calledOff : Bool) :
      Writer (Materialization.createAndOpen content target editor calledOff)
  | createNote (book : Notebook) (t : Template) (openEditor calledOff : Bool)
      (now : Option Moment) : Writer (book.createNote t openEditor calledOff now)
  | scaffold (book : Notebook) (name : Text) (priority : Int) (category : Text)
      (openEditor : Bool) : Writer (book.scaffold name priority category openEditor)

namespace Writer

variable {a : Effect Path} {around : Surroundings} {w v : World} {p : Path}

theorem writesOnce (h : Writer a) : WritesOnce a := by
  cases h with
  | create content target calledOff => exact writesOnce_create content target calledOff
  | createAndOpen content target editor calledOff =>
      exact Materialization.writesOnce_createAndOpen content target editor calledOff
  | createNote book t openEditor calledOff now =>
      exact book.writesOnce_createNote t openEditor calledOff now
  | scaffold book name priority category openEditor =>
      exact book.writesOnce_scaffold name priority category openEditor

/-- An operation that ends with a path has written a note there. -/
theorem written (ha : Writer a) (h : a.perform around w = (.ok p, v)) :
    ∃ content landing, Materialization.Written around p content w landing v := by
  rcases ha.writesOnce around w with
    ⟨f, u, hf, -⟩ | ⟨content, target, calledOff, u, hu, ⟨f, u', -, hf⟩ | ⟨u', hok, hhistory, hp⟩⟩
  · rw [h] at hf
    cases hf
  · rw [h] at hf
    cases hf
  · rw [h] at hhistory hp
    obtain rfl : p = target := hp p rfl
    rcases Materialization.create_cases around u content p calledOff with
      ⟨f, u'', hf, -, -⟩ | ⟨landing, u'', hok', hwritten⟩
    · rw [hok] at hf
      cases hf
    · rw [hok] at hok'
      cases hok'
      exact ⟨content, landing, hwritten.congr hu hhistory⟩

/-- The path of a note is a link once the directories on the way to it are made. -/
def LinkAt (around : Surroundings) (s : Store) (p : Path) : Prop :=
  ∃ q target, (Disk.prepared around s p.parent).find around.base false p.toText =
    .ok (.found q (.link target))

/--
A write that succeeds found nothing at its target and keeps every entry, if and only if the
target is no link; a link at the target is the only entry that can be lost, and a file is in
its stead.
-/
theorem keeps_iff (ha : Writer a) (h : a.perform around w = (.ok p, v)) :
    ((w.store.entryAt? around.base false p.toText = none ∧
        ∀ q e, w.store.get? q = some e → v.store.get? q = some e) ↔
      ¬ LinkAt around w.store p) ∧
    ∀ q e, w.store.get? q = some e →
      v.store.get? q = some e ∨
        (∃ target, e = .link target) ∧
        (Disk.prepared around w.store p.parent).find around.base false p.toText =
          .ok (.found q e) ∧
        ∃ mode bytes, v.store.get? q = some (.file mode bytes) := by
  obtain ⟨content, landing, hwritten⟩ := ha.written h
  have hgrows := Disk.grows_prepared around w.store p.parent
  have hlands := hwritten.lands
  refine ⟨⟨?_, ?_⟩, ?_⟩
  · rintro ⟨-, hkeeps⟩ ⟨q, target, hlink⟩
    have hq := Store.get?_of_find_found (by simp) hlink
    have hold := hgrows.get?_of_ne_directory hq (by simp)
    have hstill := hkeeps q _ hold
    rw [hlink] at hlands
    cases hlands
    rw [hwritten.store_eq, Landing.place, Store.get?_insert_self] at hstill
    cases hstill
  · intro hno
    have hfree : ∀ q e, landing ≠ .found q e := by
      rintro q e rfl
      have he := hwritten.link q e rfl
      cases e with
      | file mode bytes => cases he
      | directory => cases he
      | link target => exact hno ⟨q, target, hlands⟩
    constructor
    · rw [Option.eq_none_iff_forall_ne_some]
      intro e he
      obtain ⟨q, hfind⟩ := Store.entryAt?_eq_some.mp he
      have hfound := hgrows.find_of_find_found hfind
      rw [hlands] at hfound
      cases hfound
      exact hfree q e rfl
    · intro q e hq
      rcases hwritten.kept_or_replaced hq with hkept | ⟨-, hlanding, -⟩
      · exact hkept
      · exact absurd hlanding (hfree q e)
  · intro q e hq
    rcases hwritten.kept_or_replaced hq with hkept | ⟨hlink, rfl, hfile⟩
    · exact Or.inl hkept
    · exact Or.inr ⟨hlink, hlands, hfile⟩

theorem keeps_iff_dangling_link :
    let w : World := { store := { entries := [(["L"], .link "nowhere")] } }
    let run := (Materialization.create "new" (Path.ofText "/L") false).perform .plain w
    run.1 = .ok (Path.ofText "/L") ∧
      ¬ (w.store.entryAt? [] false (Path.ofText "/L").toText = none ∧
        ∀ q e, w.store.get? q = some e → run.2.store.get? q = some e) := by
  intro w run
  have hrun : run.1 = .ok (Path.ofText "/L") := by decide +kernel
  have hlink : LinkAt .plain w.store (Path.ofText "/L") :=
    ⟨["L"], "nowhere", by decide +kernel⟩
  have hwriter := Writer.create "new" (Path.ofText "/L") false
  refine ⟨hrun, fun hkept => ?_⟩
  exact (hwriter.keeps_iff (Prod.ext hrun rfl)).1.mp hkept hlink

end Writer
end NoteTemplates
