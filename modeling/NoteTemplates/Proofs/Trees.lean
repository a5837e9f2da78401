import NoteTemplates.Proofs.Texts
import NoteTemplates.Proofs.Interruption
import NoteTemplates.Proofs.Runs

/-!
# File systems stay trees

A walk that comes to nothing stops in a directory, so an entry that is made there has one
above it. From this it follows that whatever is done, the file system stays a tree, and the
directories in it stay there: for every state that writing a note goes through, and for
whole runs of operations.
-/

namespace NoteTemplates

open Effect

namespace Walk

theorem mem_names {path name : Text} (h : name ∈ names path) : name ≠ [] ∧ '/' ∉ name := by
  have hpart : ∀ part ∈ (Text.splitOn '/' path).filter fun part => !part.isEmpty,
      part ≠ [] ∧ '/' ∉ part := by
    intro part hmem
    rw [List.mem_filter] at hmem
    exact ⟨by simpa using hmem.2, Text.notMem_of_mem_splitOn hmem.1⟩
  rw [names] at h
  split at h
  · rcases List.mem_append.mp h with hmem | hdot
    · exact hpart name hmem
    · rw [List.mem_singleton] at hdot
      rw [hdot]
      decide
  · exact hpart name h

end Walk

namespace Store

variable {s t : Store} {base p : Place}

theorem HasDirectory.dropLast (htree : s.IsTree) (h : s.HasDirectory p) :
    s.HasDirectory p.dropLast := by
  rcases h with rfl | hdir
  · exact Or.inl rfl
  · exact htree.inDirectory _ (mem_entries_of_get? hdir)

theorem HasDirectory.of_keeps (h : s.HasDirectory p) (hkeeps : t.Keeps s) :
    t.HasDirectory p :=
  h.imp_right (hkeeps p _)

/-- A place where an entry can be made: a name in a directory. -/
def HasRoom (s : Store) (p : Place) : Prop :=
  (∀ name ∈ p, Path.isName name = true ∧ name ≠ "..") ∧ s.HasDirectory p.dropLast

theorem IsTree.hasRoom {e : Entry} (htree : s.IsTree) (h : s.get? p = some e) : s.HasRoom p :=
  ⟨htree.isName _ (mem_entries_of_get? h), htree.inDirectory _ (mem_entries_of_get? h)⟩

/-- A walk from a directory comes to nothing only where there is room. -/
theorem hasRoom_of_along_vacant {follow : Bool} (htree : s.IsTree) (links : Nat) (here : Place)
    (ns : List Text) (hhere : s.HasDirectory here)
    (hnames : ∀ name ∈ ns, name ≠ [] ∧ '/' ∉ name)
    (h : Walk.along s follow links here ns = .ok (.vacant p)) : s.HasRoom p := by
  induction links, here, ns using Walk.along_induction with
  | nil links here => simp at h
  | dot links here rest ih =>
      rw [Walk.along_dot] at h
      exact ih hhere (fun name hmem => hnames name (by simp [hmem])) h
  | up links here rest ih =>
      rw [Walk.along_up] at h
      exact ih (hhere.dropLast htree) (fun name hmem => hnames name (by simp [hmem])) h
  | proper links here name rest hname ihDir ihLink =>
      have hrest : ∀ name ∈ rest, name ≠ [] ∧ '/' ∉ name := fun name hmem =>
        hnames name (by simp [hmem])
      rw [Walk.along_proper hname] at h
      split at h
      · cases h
      · split at h
        · split at h
          · cases h
            refine ⟨fun other hmem => ?_, by rwa [List.dropLast_concat]⟩
            rcases List.mem_append.mp hmem with hold | hnew
            · rcases hhere with rfl | hdir
              · cases hold
              · exact htree.isName _ (mem_entries_of_get? hdir) other hold
            · rw [List.mem_singleton] at hnew
              obtain ⟨hne, hslash⟩ := hnames name (by simp)
              rw [hnew]
              exact ⟨by simpa [Path.isName, hne, hslash] using hname.1, hname.2⟩
          · cases h
        · rename_i hget
          exact ihDir (Or.inr hget) hrest h
        · split at h <;> cases h
        · rename_i target hget
          split at h
          · cases h
          · cases links with
            | zero => cases h
            | succ left =>
                refine ihLink left target rfl ?_ ?_ h
                · unfold Walk.start
                  split
                  · exact Or.inl rfl
                  · exact hhere
                · intro other hmem
                  rcases List.mem_append.mp hmem with hlink | hold
                  · exact Walk.mem_names hlink
                  · exact hrest other hold

theorem hasRoom_of_find_vacant {follow : Bool} {path : Text} (htree : s.IsTree)
    (hbase : s.HasDirectory base) (h : s.find base follow path = .ok (.vacant p)) :
    s.HasRoom p := by
  have hwalk := find_eq_along h
  rw [hwalk] at h
  refine hasRoom_of_along_vacant htree _ _ _ ?_ (fun _ => Walk.mem_names) h
  unfold Walk.start
  split
  · exact Or.inl rfl
  · exact hbase

/-- A tree stays one if an entry is put where there is room, and not in a directory's stead. -/
theorem IsTree.insert (htree : s.IsTree) (hroom : s.HasRoom p)
    (hdir : s.get? p ≠ some .directory) (e : Entry) : (s.insert p e).IsTree := by
  have hkeeps : ∀ q, s.HasDirectory q → (s.insert p e).HasDirectory q := by
    intro q hq
    refine hq.imp_right fun hget => ?_
    have hne : q ≠ p := by
      rintro rfl
      exact hdir hget
    rwa [get?_insert_of_ne s e hne]
  constructor
  · intro entry hmem
    rcases List.mem_cons.mp hmem with rfl | hold
    · exact hroom.1
    · exact htree.isName entry (List.mem_filter.mp hold).1
  · intro entry hmem
    rcases List.mem_cons.mp hmem with rfl | hold
    · exact hkeeps _ hroom.2
    · exact hkeeps _ (htree.inDirectory entry (List.mem_filter.mp hold).1)

/-- A tree stays one if an entry is taken away that is no directory. -/
theorem IsTree.erase (htree : s.IsTree) (hdir : s.get? p ≠ some .directory) :
    (s.erase p).IsTree := by
  constructor
  · exact fun entry hmem => htree.isName entry (List.mem_filter.mp hmem).1
  · intro entry hmem
    refine (htree.inDirectory entry (List.mem_filter.mp hmem).1).imp_right fun hget => ?_
    have hne : entry.1.dropLast ≠ p := by
      rintro rfl
      exact hdir hget
    rwa [get?_erase_of_ne s hne]

/-- Making directories leaves a tree. -/
theorem Grows.isTree {path : Path} (h : Grows base path s t) (htree : s.IsTree)
    (hbase : s.HasDirectory base) : t.IsTree := by
  induction h with
  | refl => exact htree
  | made before _ vacant ih =>
      have hnone := get?_of_find_vacant vacant
      have hroom := hasRoom_of_find_vacant ih (hbase.of_keeps before.keeps) vacant
      exact ih.insert hroom (by simp [hnone]) .directory

end Store

namespace Materialization

variable {around : Surroundings} {target : Path} {content : Text} {w v : World} {s t : Store}

theorem Underway.isTree (h : Underway around target s t) (htree : s.IsTree)
    (hbase : s.HasDirectory around.base) : t.IsTree := by
  have hgrows := Disk.grows_prepared around s target.parent
  have hprepared := hgrows.isTree htree hbase
  rcases h with ⟨h, -⟩ | ⟨-, rfl | ⟨temporary, place, mode, bytes, hspot, rfl⟩⟩
  · exact h.isTree htree hbase
  · exact hprepared
  · have hroom :=
      Store.hasRoom_of_find_vacant hprepared (hbase.of_keeps hgrows.keeps) hspot.vacant
    exact hprepared.insert hroom (by simp [hspot.get?]) _

theorem Written.isTree {landing : Landing} (h : Written around target content w landing v)
    (htree : w.store.IsTree) (hbase : w.store.HasDirectory around.base) : v.store.IsTree := by
  have hgrows := Disk.grows_prepared around w.store target.parent
  have hprepared := hgrows.isTree htree hbase
  have hlands := h.lands
  rw [h.store_eq]
  cases landing with
  | vacant p =>
      have hroom := Store.hasRoom_of_find_vacant hprepared (hbase.of_keeps hgrows.keeps) hlands
      exact hprepared.insert hroom (by simp [Store.get?_of_find_vacant hlands]) _
  | found p e =>
      have he : e ≠ .directory := by
        rintro rfl
        cases h.link p _ rfl
      have hget := Store.get?_of_find_found he hlands
      exact hprepared.insert (hprepared.hasRoom hget) (by simpa [Landing.place, hget] using he) _

/-- Every state that writing a note goes through is a tree. -/
theorem isTree_of_mem_history {calledOff : Bool} (htree : w.store.IsTree)
    (hbase : w.store.HasDirectory around.base)
    (h : t ∈ ((create content target calledOff).perform around
      { w with trail := [] }).2.history) : t.IsTree := by
  rcases create_history h with hunderway | ⟨landing, v, -, hwritten, rfl⟩
  · exact hunderway.isTree htree hbase
  · exact hwritten.isTree htree hbase

end Materialization

/-- What stays as it is: the file system is a tree, and its directories are there. -/
def StaysTree (around : Surroundings) (s t : Store) : Prop :=
  s.IsTree → s.HasDirectory around.base →
    t.IsTree ∧ ∀ p, s.HasDirectory p → t.HasDirectory p

theorem staysTree_create (content : Text) (target : Path) (calledOff : Bool) :
    Leaves StaysTree (Materialization.create content target calledOff) := by
  intro around w htree hbase
  rcases Materialization.create_cases around w content target calledOff with
    ⟨f, u, hf, happroach, -⟩ | ⟨landing, v, hok, hwritten⟩
  · rw [hf]
    have hunderway := happroach.leadsTo.store fun s =>
      Materialization.Underway.refl around target s
    exact ⟨hunderway.isTree htree hbase, fun p hp => hp.of_keeps hunderway.keeps⟩
  · rw [hok]
    exact ⟨hwritten.isTree htree hbase,
      fun p hp => hp.imp_right fun hget => hwritten.get? hget rfl⟩

namespace Notebook.Turn

theorem staysTree_outcome (turn : Turn) (w : World) :
    StaysTree turn.around w.store (turn.outcome w).2.store := by
  rcases turn.outcome_cases (R := StaysTree) (fun _ _ htree _ => ⟨htree, fun _ hp => hp⟩)
    staysTree_create w with hstays | ⟨q, -, hdir, hstore⟩
  · exact hstays
  · intro htree _
    rw [hstore]
    refine ⟨htree.erase hdir, fun p hp => hp.imp_right fun hget => ?_⟩
    have hne : p ≠ q := by
      rintro rfl
      exact hdir hget
    rwa [Store.get?_erase_of_ne _ hne]

/-- After a run from a tree with the working directories in it, the file system is a tree. -/
theorem isTree_run (turns : List Turn) (w : World) (htree : w.store.IsTree)
    (hbase : ∀ turn ∈ turns, w.store.HasDirectory turn.around.base) :
    (run turns w).store.IsTree ∧
      ∀ p, w.store.HasDirectory p → (run turns w).store.HasDirectory p := by
  induction turns using List.reverseRecOn with
  | nil => exact ⟨htree, fun _ hp => hp⟩
  | append_singleton turns turn ih =>
      obtain ⟨hrun, hkept⟩ := ih fun other hmem => hbase other (by simp [hmem])
      have hthere := hkept _ (hbase turn (by simp))
      obtain ⟨hafter, hstill⟩ := turn.staysTree_outcome (run turns w) hrun hthere
      rw [run_append_singleton]
      exact ⟨hafter, fun p hp => hstill p (hkept p hp)⟩

end Notebook.Turn

end NoteTemplates
