import NoteTemplates.Proofs.Neighbours
import NoteTemplates.Proofs.Trees

/-!
# File systems with something added

What is added to a file system when a note is written are directories on the way to it and a
file in the last of them. No name with a NUL in it comes in, so the file system stays one. Read
in the other direction, a path that leads to a directory after directories were added led to it
before, or to nothing.

Results: `IsSound.insert` and `Grows.isSound`, `Keeps.found_or_lacks`, and `item_of_file` for the
template that is read from a file which is there.
-/

namespace NoteTemplates

open Effect

namespace Path

variable {s : Store} {base p : Place} {q : Path} {n : Step}

/-- The steps of a path stand in its text. -/
theorem infix_toText (h : n ∈ q.steps) : n.val <:+: q.toText := by
  have hpart : n.val ∈ q.parts := List.mem_map_of_mem h
  rw [toText_of_parts_ne_nil (List.ne_nil_of_mem hpart)]
  exact (Text.infix_joinWith hpart).trans (List.suffix_append _ _).isInfix

/-- A path that leads to a vacant place ends with the last name of that place. -/
theorem exists_step_of_find_vacant (h : s.find base false q.toText = .ok (.vacant p)) :
    ∃ n ∈ q.steps, p.getLast? = some n.val := by
  rcases q.steps_eq_nil_or with hnil | ⟨n, hsteps⟩
  · rw [find_toText, parts_eq_nil_iff.mpr hnil, Walk.along_nil] at h
    split at h <;> cases h
  · refine ⟨n, by rw [hsteps]; simp, ?_⟩
    rcases find_last s base hsteps with ⟨directory, left, -, hlook⟩ | ⟨-, herr⟩
    · rw [hlook] at h
      by_cases hup : n.val = ".."
      · rw [hup, Walk.along_up, Walk.along_nil] at h
        cases h
      · obtain ⟨inner, hinner⟩ := Walk.place_of_along_append_singleton (n.isProper hup) left
          directory [] h
        rw [show p = inner ++ [n.val] from hinner, List.getLast?_concat]
    · obtain ⟨errno, herr⟩ := herr false
      rw [herr] at h
      cases h

end Path

namespace Store

variable {s t : Store} {base p place : Place} {path : Path} {extra : Text} {e : Entry}

/-- A file system stays one if an entry is put where there is room, under a name without NUL. -/
theorem IsSound.insert (h : s.IsSound) (hroom : s.HasRoom p)
    (hdir : s.get? p ≠ some .directory) (hlast : ∀ name ∈ p.getLast?, '\x00' ∉ name)
    (e : Entry) : (s.insert p e).IsSound := by
  have hsub : List.Sublist (s.erase p).entries s.entries := List.filter_sublist
  have hnames : ∀ name ∈ p, '\x00' ∉ name := by
    intro name hmem
    rcases List.eq_nil_or_concat p with rfl | ⟨directory, last, rfl⟩
    · cases hmem
    · rw [List.concat_eq_append] at hroom hlast hmem
      rcases List.mem_append.mp hmem with hmem | hmem
      · have hdirectory := hroom.2
        rw [List.dropLast_concat] at hdirectory
        rcases hdirectory with rfl | hget
        · cases hmem
        · exact h.noNul _ (mem_entries_of_get? hget) name hmem
      · rw [List.mem_singleton] at hmem
        exact hmem ▸ hlast last (by simp)
  refine ⟨h.tree.insert hroom hdir e, ?_, ?_⟩
  · refine List.nodup_cons.mpr ⟨?_, h.single.sublist (hsub.map _)⟩
    intro hmem
    obtain ⟨entry, hentry, heq⟩ := List.mem_map.mp hmem
    simpa [heq] using (List.mem_filter.mp hentry).2
  · intro entry hmem
    rcases List.mem_cons.mp hmem with rfl | hold
    · exact hnames
    · exact h.noNul entry (hsub.subset hold)

/-- Making directories leaves a file system, if no NUL is in the path. -/
theorem Grows.isSound (h : Grows base path s t) (hs : s.IsSound) (hbase : s.HasDirectory base)
    (hnul : ∀ n ∈ path.steps, '\x00' ∉ n.val) : t.IsSound := by
  induction h with
  | refl => exact hs
  | made before onTheWay vacant ih =>
      have hnone := get?_of_find_vacant vacant
      have hroom := hasRoom_of_find_vacant ih.tree (hbase.of_keeps before.keeps) vacant
      obtain ⟨n, hn, hlast⟩ := Path.exists_step_of_find_vacant vacant
      obtain ⟨steps, hsteps⟩ := onTheWay
      have hname : '\x00' ∉ n.val := hnul n (by simp [hsteps, Path.extend, hn])
      refine ih.insert hroom (by simp [hnone]) (fun name hname' => ?_) .directory
      rw [hlast] at hname'
      cases hname'
      exact hname

/-- What a walk finds beside what was added it found before, or it came to nothing. -/
theorem along_found_or_lacks {follow : Bool} (hkeeps : t.Keeps s) (links : Nat) (here : Place)
    (ns : List Text) (h : Walk.along t follow links here ns = .ok (.found p e)) :
    Walk.along s follow links here ns = .ok (.found p e) ∨
      (∃ r, Walk.along s follow links here ns = .ok (.vacant r)) ∨
        Walk.along s follow links here ns = .error .noEntry := by
  induction links, here, ns using Walk.along_induction with
  | nil links here => exact Or.inl (by simpa using h)
  | dot links here rest ih =>
      rw [Walk.along_dot] at h ⊢
      exact ih h
  | up links here rest ih =>
      rw [Walk.along_up] at h ⊢
      exact ih h
  | proper links here name rest hname ihDir ihLink =>
      rw [Walk.along_proper hname] at h ⊢
      split at h
      · cases h
      · rename_i hshort
        rw [if_neg hshort]
        cases hget : s.get? (here ++ [name]) with
        | none =>
            -- the way ends here, at a vacant place or in front of one
            right
            cases rest with
            | nil => exact Or.inl ⟨_, rfl⟩
            | cons next rest => exact Or.inr rfl
        | some f =>
            rw [hkeeps _ _ hget] at h
            cases f with
            | file mode bytes => exact Or.inl h
            | directory => exact ihDir h
            | link target =>
                dsimp only at h ⊢
                split at h
                · rename_i hend
                  rw [if_pos hend]
                  exact Or.inl h
                · rename_i hend
                  rw [if_neg hend]
                  cases links with
                  | zero => cases h
                  | succ left => exact ihLink left target rfl h

theorem Keeps.found_or_lacks (hkeeps : t.Keeps s)
    (h : t.find base true path.toText = .ok (.found place .directory)) :
    s.find base true path.toText = .ok (.found place .directory) ∨ s.Lacks base path := by
  have hwalk := find_eq_along h
  rw [Lacks, hwalk s true]
  rw [hwalk] at h
  exact along_found_or_lacks hkeeps _ _ _ h

/-- Directories that are made hold no links, and none come into those that are there. -/
theorem Grows.no_links (h : Grows base path s t)
    (hlinks : ∀ name target, (name, Entry.link target) ∉ s.children place) (name target : Text) :
    (name, Entry.link target) ∉ t.children place := by
  intro hmem
  rcases h.mem_entries (mem_children.mp hmem) with hold | hdir
  · exact hlinks name target (mem_children.mpr hold)
  · cases hdir

end Store

namespace Disk

variable {around : Surroundings} {w : World} {path : Text} {place : Place}

/-- A directory can be listed if listing is not made to fail. -/
theorem list_of_found (hspares : around.Spares .list) (hnul : '\x00' ∉ path)
    (hfound : w.store.find around.base true path = .ok (.found place .directory)) :
    (list path).perform around w = (.ok (w.store.children place), w) := by
  simp only [list, perform_bind, checkFault_of_spares hspares, perform_checkPath, if_neg hnul,
    perform_look, hfound]
  rfl

/-- A file can be read if its owner may read it and opening files is not made to fail. -/
theorem readFile_of_found {mode : Nat} {bytes : Bytes} (hspares : around.Spares .openFile)
    (hnul : '\x00' ∉ path) (hmode : permits readBit mode = true)
    (hfound : w.store.find around.base true path = .ok (.found place (.file mode bytes))) :
    (readFile path).perform around w = (.ok bytes, w) := by
  simp only [readFile, contents, perform_bind, checkFault_of_spares hspares, perform_checkPath,
    if_neg hnul, perform_look, hfound, hmode, if_true]
  rfl

end Disk

namespace Catalog

variable {around : Surroundings} {s : Store} {directory name content : Text}

/-- A file with the text of a template in it gives the template. -/
theorem item_of_file {place : Place} {mode : Nat} {bytes : Bytes} {t : Template}
    (hspares : around.Spares .openFile) (hnul : '\x00' ∉ Disk.inside directory name)
    (hmode : Disk.permits Disk.readBit mode = true)
    (hfound : s.find around.base true (Disk.inside directory name) =
      .ok (.found place (.file mode bytes)))
    (hdecoded : Utf8.decode bytes = .ok content)
    (hparsed : Template.parse (Disk.inside directory name) content = .ok t) :
    item around s directory name = .ok t := by
  have hread := Disk.readFile_of_found (w := { store := s }) hspares hnul hmode hfound
  have htemplate : templateIn directory name bytes = .ok t := by
    rw [templateIn, hdecoded]
    exact hparsed
  rw [item, readTemplate, perform_bind, perform_attempt, hread]
  dsimp only
  rw [htemplate]
  rfl

end Catalog
end NoteTemplates
