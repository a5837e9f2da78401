import NoteTemplates.Materialization
import NoteTemplates.Proofs.Directories

/-!
# Writing

What writing a file whole or not at all leaves behind. Until the file is moved to its place,
the store is the one at the beginning, or has a temporary file in it and nothing else that
is new. A write that fails leaves the store as it was, unless the temporary file cannot be
taken away; a write that succeeds has put the whole file where the path of the target led.
Before that, writing a note makes directories, and looks whether anything is at the target.
-/

namespace NoteTemplates
namespace Materialization

open Effect

/-- The path in text of the temporary file with an ending that goes with a target. -/
def temporaryPath (around : Surroundings) (target : Path) (suffix : Text) : Text :=
  Disk.inside (target.parent.absolute around.directory).collapse.toText
    (temporaryName target.name ++ suffix)

/-- The removal of no temporary file is made to fail. -/
def SparesCleanUp (around : Surroundings) : Prop :=
  ∀ target, ∀ suffix ∈ around.suffixes, ∀ w,
    (Disk.checkFault .remove [temporaryPath around target suffix]).perform around w = (.ok (), w)

theorem sparesCleanUp_of_spares {around : Surroundings} (h : around.Spares .remove) :
    SparesCleanUp around :=
  fun _ _ _ _ => Disk.checkFault_of_spares h _

/-- A vacant place to which the path of a temporary file leads, for an ending that is tried. -/
structure Spot (around : Surroundings) (target : Path) (s : Store) (temporary : Text)
    (place : Place) : Prop where
  named : ∃ suffix ∈ around.suffixes, temporary = temporaryPath around target suffix
  whole : '\x00' ∉ temporary
  vacant : s.find around.base false temporary = .ok (.vacant place)

/-- The second store is the first one, or has a temporary file in it besides. -/
def Unfinished (around : Surroundings) (target : Path) (s t : Store) : Prop :=
  t = s ∨ ∃ temporary place mode bytes,
    Spot around target s temporary place ∧ t = s.insert place (.file mode bytes)

/-- A temporary file was made after the first world, and is there in the second. -/
structure Holds (around : Surroundings) (target : Path) (w : World) (temporary : Text)
    (place : Place) (mode : Nat) (bytes : Bytes) (v : World) : Prop where
  spot : Spot around target w.store temporary place
  leadsTo : w.LeadsTo (Unfinished around target) v
  store_eq : v.store = w.store.insert place (.file mode bytes)

section Holds

variable {around : Surroundings} {target : Path} {u v w : World} {temporary : Text}
  {place : Place} {mode : Nat} {bytes : Bytes}

theorem Spot.get? {s : Store} (h : Spot around target s temporary place) :
    s.get? place = none :=
  Store.get?_of_find_vacant h.vacant

/-- The path of a temporary file leads to it. -/
theorem Holds.find (h : Holds around target w temporary place mode bytes v) (follow : Bool) :
    v.store.find around.base follow temporary = .ok (.found place (.file mode bytes)) := by
  have hways : (w.store.insert place (.file mode bytes)).KeepsWays w.store :=
    (Store.keeps_insert_of_vacant h.spot.get? _).ways
  have hfound : (w.store.insert place (.file mode bytes)).find around.base follow temporary = _ :=
    Store.find_of_find_vacant hways (by simp) (by simp) h.spot.vacant
  rw [h.store_eq, hfound, Store.get?_insert_self]
  rfl

/-- A temporary file gets another mode or other bytes. -/
theorem Holds.moved (h : Holds around target w temporary place mode bytes v)
    (mode' : Nat) (bytes' : Bytes) :
    Holds around target w temporary place mode' bytes'
      (v.moved (v.store.insert place (.file mode' bytes'))) := by
  have hstore : v.store.insert place (.file mode' bytes') =
      w.store.insert place (.file mode' bytes') := by
    rw [h.store_eq, Store.insert_insert]
  rw [hstore]
  refine ⟨h.spot, h.leadsTo.moved ?_, rfl⟩
  exact Or.inr ⟨temporary, place, mode', bytes', h.spot, rfl⟩

/-- Where the target leads beside a temporary file, it led before. -/
theorem Holds.find_target {landing : Landing} {path : Text}
    (h : Holds around target w temporary place mode bytes v)
    (hfind : v.store.find around.base false path = .ok landing)
    (hdir : ∀ p, landing ≠ .found p .directory) :
    ∃ before, w.store.find around.base false path = .ok before ∧
      before.place = landing.place ∧ ∀ p, before ≠ .found p .directory := by
  have hways : w.store.KeepsWays v.store := by
    rw [h.store_eq]
    exact Store.keepsWays_insert_file w.store place mode bytes
  have hkeeps : v.store.Keeps w.store := by
    rw [h.store_eq]
    exact Store.keeps_insert_of_vacant h.spot.get? _
  by_cases hfinal : landing.isFinal = true
  · have hget : ∀ e, w.store.get? landing.place = some e → e.isFile = true := by
      intro e he
      have hv := hkeeps _ _ he
      cases landing with
      | found p f =>
          have hf : f ≠ .directory := fun hf => hdir p (by rw [hf])
          rw [Landing.place, Store.get?_of_find_found hf hfind] at hv
          cases hv
          exact hfinal
      | vacant p =>
          rw [Landing.place, Store.get?_of_find_vacant hfind] at hv
          cases hv
    have hlink : ∀ l, w.store.get? landing.place ≠ some (.link l) := by
      intro l hl
      cases hget _ hl
    refine ⟨_, Store.find_of_find_final hways (fun hf => hf) hfinal hlink hfind, by simp, ?_⟩
    intro p hp
    cases hw : w.store.get? landing.place with
    | none =>
        rw [hw] at hp
        cases hp
    | some e =>
        rw [hw] at hp
        have he := hget e hw
        simp only [Landing.ofEntry, Landing.found.injEq] at hp
        rw [hp.2] at he
        cases he
  · cases landing with
    | vacant p => exact absurd rfl hfinal
    | found p e =>
        have he : e.isFile = false := by simpa [Landing.isFinal] using hfinal
        have hne : e ≠ .directory := fun he => hdir p (by rw [he])
        have hp := hways p e (Store.get?_of_find_found hne hfind) he
        refine ⟨.found p e, Store.find_found_of_keeps hways ?_ hfind, rfl, hdir⟩
        intro f hf
        rwa [Store.get?_of_find_found hne hfind, ← hp] at hf

end Holds

section Writing

variable {around : Surroundings} {target : Path} {v w : World} {temporary : Text}
  {place : Place} {mode : Nat} {bytes : Bytes}

/--
Filling a temporary file either fails and leaves it somehow, or moves it, whole and with its
mode, to where the target led before the file was made.
-/
theorem fill_cases (h : Holds around target w temporary place mode bytes v)
    (hmode : Disk.permits Disk.writeBit mode = true) (content : Text) (final : Nat) :
    (∃ f u mode' bytes',
      (fill temporary target content final).perform around v = (.error f, u) ∧
      Holds around target w temporary place mode' bytes' u) ∨
    ∃ landing u,
      (fill temporary target content final).perform around v =
        (.ok (), u.moved (w.store.insert landing.place
          (.file (final &&& Disk.modeBits) (Utf8.encode content)))) ∧
      w.LeadsTo (Unfinished around target) u ∧
      '\x00' ∉ target.toText ∧
      w.store.find around.base false target.toText = .ok landing ∧
      ∀ p, landing ≠ .found p .directory := by
  simp only [fill, perform_bind]
  rcases Disk.writeFile_of_found (h.find true) hmode (Utf8.encode content) with
    ⟨f, hf⟩ | hwritten
  · exact Or.inl ⟨f, v, mode, bytes, by rw [hf], h⟩
  · -- from here on the bytes are whole, and only the mode and the place are missing
    rw [hwritten]
    have h₁ := h.moved mode (Utf8.encode content)
    dsimp only
    rcases Disk.setMode_of_found (h₁.find true) final with ⟨f, hf⟩ | hset
    · exact Or.inl ⟨f, _, _, _, by rw [hf], h₁⟩
    · rw [hset]
      have h₂ := h₁.moved (final &&& Disk.modeBits) (Utf8.encode content)
      dsimp only
      rcases Disk.replace_of_found (h₂.find false) with
        ⟨f, hf⟩ | ⟨landing, hnul, hfind, hdir, hmoved⟩
      · exact Or.inl ⟨f, _, _, _, hf, h₂⟩
      · right
        obtain ⟨before, hbefore, hplace, hdir'⟩ := h₂.find_target hfind hdir
        refine ⟨before, _, ?_, h₂.leadsTo, hnul, hbefore, hdir'⟩
        rw [hmoved, h₂.store_eq, Store.erase_insert, Store.erase_of_vacant h.spot.get?, hplace]

/-- A temporary file is taken away, and the store is as before, unless its removal fails. -/
theorem cleanUp_cases (h : Holds around target w temporary place mode bytes v) :
    (¬ SparesCleanUp around ∧
      ∃ f, (cleanUp temporary).perform around v = (.error f, v)) ∨
    (cleanUp temporary).perform around v = (.ok (), v.moved w.store) := by
  have hpresent : (Disk.present temporary).perform around v = (.ok true, v) := by
    have hentry := Store.entryAt?_eq_some.mpr ⟨place, h.find true⟩
    rw [Disk.perform_present, hentry]
    simp [h.spot.whole]
  have herase : v.store.erase place = w.store := by
    rw [h.store_eq, Store.erase_insert, Store.erase_of_vacant h.spot.get?]
  simp only [cleanUp, perform_bind, hpresent, if_true]
  by_cases hspares : SparesCleanUp around
  · right
    obtain ⟨suffix, hsuffix, rfl⟩ := h.spot.named
    have hspared := hspares target suffix hsuffix v
    rw [Disk.remove_of_found hspared h.spot.whole (by simp) (h.find false), herase]
  · rcases Disk.remove_cases around v temporary with ⟨f, hf⟩ | ⟨p, e, -, hfind, -, hremoved⟩
    · exact Or.inl ⟨hspares, f, hf⟩
    · right
      rw [h.find false] at hfind
      cases hfind
      rw [hremoved, herase]

/-- The temporary file is made where its path leads, and is there then. -/
theorem makeTemporary_holds (target : Path) (hv : v.history = w.history) :
    (∃ f, (Disk.makeTemporary (target.parent.absolute around.directory).collapse.toText
        (temporaryName target.name)).perform around v = (.error f, v)) ∨
    ∃ temporary place u,
      (Disk.makeTemporary (target.parent.absolute around.directory).collapse.toText
        (temporaryName target.name)).perform around v = (.ok temporary, u) ∧
      Holds around target w temporary place Disk.privateMode [] u := by
  rcases Disk.makeTemporary_cases around v _ (temporaryName target.name) with
    hfail | ⟨suffix, hsuffix, place, hwhole, hvacant, hmade⟩
  · exact Or.inl hfail
  · right
    rw [World.store_eq_of_history_eq hv] at hvacant hmade
    have hspot : Spot around target w.store (temporaryPath around target suffix) place :=
      ⟨⟨suffix, hsuffix, rfl⟩, hwhole, hvacant⟩
    refine ⟨_, place, _, hmade, hspot, ?_, rfl⟩
    exact (World.leadsTo_of_history_eq hv).moved (Or.inr ⟨_, place, _, _, hspot, rfl⟩)

/--
A write either fails, and the store is as before unless the removal of the temporary file
fails, or has put the whole file where its target led.
-/
theorem writeAtomically_cases (around : Surroundings) (w : World) (target : Path)
    (content : Text) (mode : Nat) (calledOff : Bool) :
    (∃ f u,
      (writeAtomically target.toText content mode calledOff).perform around w =
        (.error f, u) ∧
      w.LeadsTo (Unfinished around target) u ∧
      (SparesCleanUp around → u.store = w.store)) ∨
    ∃ landing u v,
      (writeAtomically target.toText content mode calledOff).perform around w =
        (.ok (), v) ∧
      w.LeadsTo (Unfinished around target) u ∧
      v.history = w.store.insert landing.place
        (.file (mode &&& Disk.modeBits) (Utf8.encode content)) :: u.history ∧
      '\x00' ∉ target.toText ∧
      w.store.find around.base false target.toText = .ok landing ∧
      ∀ p, landing ≠ .found p .directory := by
  simp only [writeAtomically, Path.ofText_toText]
  cases calledOff with
  | true => exact Or.inl ⟨_, w, rfl, World.LeadsTo.refl _ w, fun _ => rfl⟩
  | false =>
      simp only [Bool.false_eq_true, if_false, perform_bind, perform_note, perform_read]
      rcases makeTemporary_holds target (World.history_noted w _) with
        ⟨f, hf⟩ | ⟨temporary, place, v, hmade, hholds⟩
      · rw [hf]
        exact Or.inl ⟨f, _, rfl, World.leadsTo_of_history_eq rfl, fun _ => rfl⟩
      · rw [hmade]
        dsimp only
        rw [perform_attempt]
        rcases fill_cases hholds (by decide) content mode with
          ⟨f, u, mode', bytes', hfill, hu⟩ | ⟨landing, u, hfill, hu, hnul, hfind, hdir⟩
        · left
          rw [hfill]
          dsimp only
          rw [perform_bind]
          rcases cleanUp_cases hu with ⟨hspares, g, hg⟩ | hclean
          · rw [hg]
            exact ⟨g, u, rfl, hu.leadsTo, fun h => absurd h hspares⟩
          · rw [hclean]
            exact ⟨f, _, rfl, hu.leadsTo.moved (Or.inl rfl), fun _ => rfl⟩
        · right
          rw [hfill]
          exact ⟨landing, u, _, rfl, hu, rfl, hnul, hfind, hdir⟩

end Writing

section Creating

variable {α : Type} {around : Surroundings} {target : Path} {content : Text} {v w : World}
  {landing : Landing}

theorem perform_reporting (kind : TemplateErrorKind) (path : Path) (a : Effect α) :
    (reporting kind path a).perform around w =
      match a.perform around w with
      | (.ok x, v) => (.ok x, v)
      | (.error f, v) => (.error (asTemplateError kind path f), v) := by
  rw [reporting, perform_bind, perform_attempt]
  cases a.perform around w with
  | mk result v => cases result <;> rfl

/--
A store on the way to a note: directories are added, or a temporary file once the directory
of the note is there.
-/
def Underway (around : Surroundings) (target : Path) (s t : Store) : Prop :=
  Disk.Between around.base target.parent (Disk.prepared around s target.parent) s t ∨
    (∃ p, (Disk.prepared around s target.parent).find around.base true
      target.parent.toText = .ok (.found p .directory)) ∧
    Unfinished around target (Disk.prepared around s target.parent) t

/--
The second world came from the first on the way to a note, after the directories on the way
were made as far as they can be.
-/
structure Approach (around : Surroundings) (target : Path) (w v : World) : Prop where
  leadsTo : w.LeadsTo (Underway around target) v
  prepared : Disk.prepared around w.store target.parent ∈ v.history

/--
A note was written after the directories on the way to it were made: nothing was at its
target when links are followed, and the whole file was put where the target led when its
last name is not followed.
-/
structure Written (around : Surroundings) (target : Path) (content : Text) (w : World)
    (landing : Landing) (v : World) : Prop where
  parent : ∃ p, (Disk.prepared around w.store target.parent).find around.base true
    target.parent.toText = .ok (.found p .directory)
  lands : (Disk.prepared around w.store target.parent).find around.base false
    target.toText = .ok landing
  absent : (Disk.prepared around w.store target.parent).entryAt? around.base true
    target.toText = none
  link : ∀ p e, landing = .found p e → e.isLink = true
  history : ∃ u, Approach around target w u ∧
    v.history = (Disk.prepared around w.store target.parent).insert landing.place
      (.file Disk.defaultMode (Utf8.encode content)) :: u.history

/--
Writing a note fails, with directories made at most unless the removal of the temporary file
fails, or succeeds.
-/
theorem create_ends (around : Surroundings) (w : World) (content : Text) (target : Path)
    (calledOff : Bool) :
    (∃ f u, (create content target calledOff).perform around w = (.error f, u) ∧
      Approach around target w u ∧
      (SparesCleanUp around → u.store = Disk.prepared around w.store target.parent)) ∨
    ∃ landing v, (create content target calledOff).perform around w = (.ok target, v) ∧
      Written around target content w landing v := by
  have hmakes := Disk.makes_makeDirectories around target.parent w
  have hstore := Disk.store_makeDirectories around target.parent w
  rw [create, perform_bind, perform_reporting]
  cases hmade : (Disk.makeDirectories target.parent.toText).perform around w with
  | mk result v =>
      rw [hmade] at hmakes hstore
      dsimp only at hstore
      have happroach : Approach around target w v := by
        have hlead := hmakes.leadsTo
        rw [hstore] at hlead
        refine ⟨hlead.mono fun h => Or.inl h, ?_⟩
        rw [World.history, hstore]
        exact List.mem_cons_self
      cases result with
      | error f => exact Or.inl ⟨_, v, rfl, happroach, fun _ => hstore⟩
      | ok =>
          have hparent := hmakes.directory rfl
          dsimp only at hparent ⊢
          rw [hstore] at hparent
          have hgo {u : World} (hu : v.LeadsTo (Unfinished around target) u) :
              Approach around target w u := by
            refine ⟨happroach.leadsTo.append hu fun s hs => Or.inr ⟨hparent, ?_⟩,
              hu.mem_history happroach.prepared⟩
            rwa [hstore] at hs
          simp only [perform_bind, Disk.perform_present, hstore]
          split
          · exact Or.inl ⟨_, v, rfl, happroach, fun _ => hstore⟩
          · rename_i habsent
            rw [perform_bind, perform_reporting]
            rcases writeAtomically_cases around v target content Disk.defaultMode calledOff with
              ⟨f, u, hf, hu, hclean⟩ | ⟨landing, u, v', hok, hu, hhistory, hnul, hfind, hdir⟩
            · left
              rw [hf]
              rw [hstore] at hclean
              exact ⟨_, u, rfl, hgo hu, hclean⟩
            · right
              rw [hok]
              rw [hstore] at hhistory hfind
              have hnone : (Disk.prepared around w.store target.parent).entryAt? around.base true
                  target.toText = none := by simpa [hnul] using habsent
              refine ⟨landing, _, rfl, hparent, hfind, hnone, ?_, u, hgo hu, hhistory⟩
              intro p e hlanding
              subst hlanding
              cases e with
              | directory => exact absurd rfl (hdir p)
              | link => rfl
              | file mode bytes =>
                  have hfound := Store.find_true_of_find (by simp) hfind
                  rw [Store.entryAt?_eq_some.mpr ⟨p, hfound⟩] at hnone
                  cases hnone

/-- Writing a note fails, with directories made at most unless removals fail, or succeeds. -/
theorem create_cases (around : Surroundings) (w : World) (content : Text) (target : Path)
    (calledOff : Bool) :
    (∃ f u, (create content target calledOff).perform around w = (.error f, u) ∧
      Approach around target w u ∧
      (around.Spares .remove → u.store = Disk.prepared around w.store target.parent)) ∨
    ∃ landing v, (create content target calledOff).perform around w = (.ok target, v) ∧
      Written around target content w landing v := by
  refine (create_ends around w content target calledOff).imp_left ?_
  rintro ⟨f, u, hf, happroach, hstore⟩
  exact ⟨f, u, hf, happroach, fun hspares => hstore (sparesCleanUp_of_spares hspares)⟩

theorem Underway.refl (around : Surroundings) (target : Path) (s : Store) :
    Underway around target s s :=
  Or.inl ⟨.refl, Disk.grows_prepared around s target.parent⟩

theorem Underway.keeps {s t : Store} (h : Underway around target s t) : t.Keeps s := by
  rcases h with ⟨h, -⟩ | ⟨-, rfl | ⟨temporary, place, mode, bytes, hspot, rfl⟩⟩
  · exact h.keeps
  · exact (Disk.grows_prepared around s target.parent).keeps
  · have hprepared := (Disk.grows_prepared around s target.parent).keeps
    exact (Store.keeps_insert_of_vacant hspot.get? _).trans hprepared

/-- The store after a note was written. -/
theorem Written.store_eq (h : Written around target content w landing v) :
    v.store = (Disk.prepared around w.store target.parent).insert landing.place
      (.file Disk.defaultMode (Utf8.encode content)) := by
  obtain ⟨u, -, hhistory⟩ := h.history
  simp only [World.history, List.cons.injEq] at hhistory
  exact hhistory.1

/-- What is at the place where a note is put is what its target led to. -/
theorem Written.eq_found (h : Written around target content w landing v) {e : Entry}
    (he : (Disk.prepared around w.store target.parent).get? landing.place = some e) :
    landing = .found landing.place e := by
  have hlands := h.lands
  cases hlanding : landing with
  | vacant p =>
      rw [hlanding] at he hlands
      rw [Landing.place, Store.get?_of_find_vacant hlands] at he
      cases he
  | found p f =>
      have hne : f ≠ .directory := by
        rintro rfl
        cases h.link p _ hlanding
      rw [hlanding] at he hlands
      rw [Landing.place, Store.get?_of_find_found hne hlands] at he
      cases he
      rfl

theorem Written.isLink (h : Written around target content w landing v) {e : Entry}
    (he : (Disk.prepared around w.store target.parent).get? landing.place = some e) :
    e.isLink = true :=
  h.link _ e (h.eq_found he)

/-- A note that is written takes the place of no file and no directory. -/
theorem Written.get? (h : Written around target content w landing v) {p : Place} {e : Entry}
    (hp : w.store.get? p = some e) (he : e.isLink = false) : v.store.get? p = some e := by
  have hkept := (Disk.grows_prepared around w.store target.parent).keeps p e hp
  have hne : p ≠ landing.place := by
    rintro rfl
    rw [h.isLink hkept] at he
    cases he
  rw [h.store_eq, Store.get?_insert_of_ne _ _ hne]
  exact hkept

/-- The same note is written from a world with the same history, and to one. -/
theorem Written.congr {w' v' : World} (h : Written around target content w landing v)
    (hw : w.history = w'.history) (hv : v'.history = v.history) :
    Written around target content w' landing v' := by
  obtain ⟨hparent, hlands, habsent, hlink, u, ⟨⟨states, hstates, hR⟩, hprepared⟩, hhistory⟩ := h
  rw [World.store_eq_of_history_eq hw] at hparent hlands habsent hR hprepared hhistory
  rw [hw] at hstates
  exact ⟨hparent, hlands, habsent, hlink, u, ⟨⟨states, hstates, hR⟩, hprepared⟩,
    hv.trans hhistory⟩

/-- A note is only written to a path without NUL. -/
theorem nul_notMem_of_create {calledOff : Bool} {p : Path}
    (h : ((create content target calledOff).perform around w).1 = .ok p) :
    '\x00' ∉ target.toText := by
  revert h
  rw [create, perform_bind, perform_reporting]
  cases (Disk.makeDirectories target.parent.toText).perform around w with
  | mk result u =>
      cases result with
      | error f =>
          intro h
          cases h
      | ok =>
          dsimp only
          simp only [perform_bind, Disk.perform_present]
          split
          · intro h
            cases h
          · simp only [perform_bind, perform_reporting]
            rcases writeAtomically_cases around u target content Disk.defaultMode calledOff with
              ⟨f, x, hf, -⟩ | ⟨landing, x, y, -, -, -, hnul, -⟩
            · rw [hf]
              intro h
              cases h
            · exact fun _ => hnul

end Creating

section Silent

variable {α : Type}

theorem silent_fill (temporary : Text) (target : Path) (content : Text) (mode : Nat) :
    Silent Failure.IsOfDisk (fill temporary target content mode) := by
  refine silent_bind (Disk.silent_writeFile _ _) fun _ => ?_
  exact silent_bind (Disk.silent_setMode _ _) fun _ => Disk.silent_replace _ _

theorem silent_cleanUp (temporary : Text) : Silent Failure.IsOfDisk (cleanUp temporary) := by
  refine silent_bind (Disk.calm_present _).silent fun there => ?_
  split
  · exact Disk.silent_remove _
  · exact silent_pure _

theorem silent_writeAtomically (path content : Text) (mode : Nat) (calledOff : Bool) :
    Silent Failure.IsOwn (writeAtomically path content mode calledOff) := by
  have hrest : Silent Failure.IsOwn (writeAtomically path content mode false) := by
    refine silent_bind (silent_note _ _ _ _) fun _ => ?_
    refine silent_bind silent_read fun around => ?_
    refine silent_bind ((Disk.silent_makeTemporary _ _).mono fun _ h => h.isOwn) fun temporary => ?_
    refine silent_attempt_bind (silent_fill _ _ _ _) (fun _ => silent_note _ _ _ _) fun f hf => ?_
    refine silent_bind ((silent_cleanUp temporary).mono fun _ h => h.isOwn) fun _ => ?_
    exact silent_throw hf.isOwn
  cases calledOff with
  | true => exact silent_bind (silent_throw id) fun _ => hrest
  | false => exact hrest

theorem silent_reporting {a : Effect α} (ha : Silent Failure.IsOwn a) (kind : TemplateErrorKind)
    (path : Path) : Silent Failure.IsOwn (reporting kind path a) := by
  refine silent_attempt_bind ha (fun _ => silent_pure _) fun f hf => ?_
  cases f with
  | system e => exact silent_throw id
  | _ => exact silent_throw hf

/-- Writing a note says nothing. -/
theorem silent_create (content : Text) (target : Path) (calledOff : Bool) :
    Silent Failure.IsOwn (create content target calledOff) := by
  refine silent_bind (silent_reporting (Disk.silent_makeDirectories _) _ _) fun _ => ?_
  refine silent_bind (Disk.calm_present _).silent fun there => ?_
  have hrest : Silent Failure.IsOwn (do
      reporting .writeFailed target
        (writeAtomically target.toText content Disk.defaultMode calledOff)
      note .info .notes "Note created"
        [("path", .text target.toText), ("size", .count content.length)]
      return target) := by
    refine silent_bind (silent_reporting (silent_writeAtomically _ _ _ _) _ _) fun _ => ?_
    exact silent_bind (silent_note _ _ _ _) fun _ => silent_pure _
  split
  · exact silent_bind (silent_throw id) fun _ => hrest
  · exact hrest

end Silent

end Materialization
end NoteTemplates
