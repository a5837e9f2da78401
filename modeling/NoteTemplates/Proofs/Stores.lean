import Mathlib.Data.List.Induction
import NoteTemplates.Path
import NoteTemplates.Store.Walk

/-!
# Reading stores

What can be read in a store after an entry was put in or taken out, and how two stores
compare: one keeps all that the other holds, or at least its directories and links, which
are all that a walk passes through.
-/

namespace NoteTemplates

/-- Whether an entry is a file. -/
def Entry.isFile : Entry → Bool
  | .file .. => true
  | .directory => false
  | .link _ => false

/-- Whether an entry is a link. -/
def Entry.isLink : Entry → Bool
  | .file .. => false
  | .directory => false
  | .link _ => true

/--
What is found under a key does not depend on the order of the entries, if no key is there
twice.
-/
theorem lookup_of_perm {α β : Type} [BEq α] [LawfulBEq α] {entries others : List (α × β)}
    (hsingle : (entries.map (·.1)).Nodup) (hperm : entries.Perm others) (a : α) :
    others.lookup a = entries.lookup a := by
  induction hperm with
  | nil => rfl
  | cons entry hperm ih =>
      obtain ⟨key, value⟩ := entry
      rw [List.map_cons, List.nodup_cons] at hsingle
      rw [List.lookup_cons, List.lookup_cons, ih hsingle.2]
  | swap entry other entries =>
      obtain ⟨key, value⟩ := entry
      obtain ⟨key', value'⟩ := other
      have hne : key' ≠ key := by
        simp only [List.map_cons, List.nodup_cons, List.mem_cons, not_or] at hsingle
        exact hsingle.1.1
      simp only [List.lookup_cons]
      by_cases hkey : a = key
      · have hother : (a == key') = false := by simpa [hkey] using Ne.symm hne
        rw [hother]
      · have hkey : (a == key) = false := by simpa using hkey
        rw [hkey]
  | trans hperm hperm' ih ih' =>
      rw [ih' ((hperm.map _).nodup_iff.mp hsingle), ih hsingle]

namespace Store

variable {s t u : Store} {p q : Place} {e : Entry}

/-- All that can be read in the second store can be read in the first. -/
def Keeps (t s : Store) : Prop :=
  ∀ p e, s.get? p = some e → t.get? p = some e

/-- All directories and links of the second store are in the first. -/
def KeepsWays (t s : Store) : Prop :=
  ∀ p e, s.get? p = some e → e.isFile = false → t.get? p = some e

section Reading

theorem get?_cons (q : Place) (e : Entry) (entries : List (Place × Entry)) (p : Place) :
    ({ entries := (q, e) :: entries } : Store).get? p =
      if p = q then some e else ({ entries := entries } : Store).get? p := by
  simp only [get?, List.lookup_cons]
  by_cases h : p = q
  · simp [h]
  · have hne : (p == q) = false := beq_eq_false_iff_ne.mpr h
    simp [h, hne]

theorem get?_erase (s : Store) (p q : Place) :
    (s.erase p).get? q = if q = p then none else s.get? q := by
  obtain ⟨entries⟩ := s
  induction entries with
  | nil =>
      simp [erase, get?]
  | cons entry entries ih =>
      obtain ⟨r, e⟩ := entry
      by_cases hr : r = p
      · have hskip : ({ entries := (r, e) :: entries } : Store).erase p =
            ({ entries := entries } : Store).erase p := by
          simp [erase, hr]
        rw [hskip, ih, get?_cons]
        by_cases hq : q = p
        · simp [hq]
        · have hqr : q ≠ r := fun h => hq (h.trans hr)
          simp [hq, hqr]
      · have hkeep : ({ entries := (r, e) :: entries } : Store).erase p =
            { entries := (r, e) :: (({ entries := entries } : Store).erase p).entries } := by
          simp [erase, hr]
        rw [hkeep, get?_cons, get?_cons]
        by_cases hq : q = r
        · have hqp : q ≠ p := fun h => hr (hq.symm.trans h)
          simp [hq, hr]
        · simpa [hq] using ih

@[simp] theorem get?_erase_self (s : Store) (p : Place) :
    (s.erase p).get? p = none := by
  simp [get?_erase]

theorem get?_erase_of_ne (s : Store) (h : q ≠ p) :
    (s.erase p).get? q = s.get? q := by
  simp [get?_erase, h]

theorem get?_insert (s : Store) (p : Place) (e : Entry) (q : Place) :
    (s.insert p e).get? q = if q = p then some e else s.get? q := by
  rw [insert, get?_cons]
  by_cases h : q = p
  · simp [h]
  · simpa [h] using get?_erase_of_ne s h

@[simp] theorem get?_insert_self (s : Store) (p : Place) (e : Entry) :
    (s.insert p e).get? p = some e := by
  simp [get?_insert]

theorem get?_insert_of_ne (s : Store) (e : Entry) (h : q ≠ p) :
    (s.insert p e).get? q = s.get? q := by
  simp [get?_insert, h]

theorem erase_insert (s : Store) (p : Place) (e : Entry) :
    (s.insert p e).erase p = s.erase p := by
  simp [insert, erase]

/-- Of two entries put in at one place, the second stays. -/
theorem insert_insert (s : Store) (p : Place) (e f : Entry) :
    (s.insert p e).insert p f = s.insert p f := by
  rw [insert, erase_insert, ← insert]

/-- Nothing is taken out of a vacant place. -/
theorem erase_of_vacant {s : Store} {p : Place} (h : s.get? p = none) : s.erase p = s := by
  obtain ⟨entries⟩ := s
  simp only [get?, List.lookup_eq_none_iff, erase, mk.injEq, List.filter_eq_self] at h ⊢
  intro entry hentry
  have hne : p ≠ entry.1 := by simpa using h entry hentry
  simpa using hne.symm

/-- An entry that can be read is among the entries. -/
theorem mem_entries_of_get? {s : Store} {p : Place} {e : Entry} (h : s.get? p = some e) :
    (p, e) ∈ s.entries := by
  obtain ⟨before, after, hentries, -⟩ := List.lookup_eq_some_iff.mp h
  rw [hentries]
  simp

theorem get?_ne_none_of_mem {s : Store} {p : Place} {e : Entry} (h : (p, e) ∈ s.entries) :
    s.get? p ≠ none := by
  intro hnone
  have hne := List.lookup_eq_none_iff.mp hnone (p, e) h
  simp at hne

/-- An entry that is there after one was put in is that one or an old one. -/
theorem mem_entries_insert {s : Store} {p q : Place} {e f : Entry}
    (h : (q, f) ∈ (s.insert p e).entries) : f = e ∨ (q, f) ∈ s.entries := by
  rcases List.mem_cons.mp h with heq | hmem
  · cases heq
    exact Or.inl rfl
  · exact Or.inr (List.mem_filter.mp hmem).1

theorem mem_children {s : Store} {p : Place} {name : Text} {e : Entry} :
    (name, e) ∈ s.children p ↔ (p ++ [name], e) ∈ s.entries := by
  rw [children, List.mem_filterMap]
  constructor
  · rintro ⟨⟨q, f⟩, hmem, hq⟩
    rcases List.eq_nil_or_concat q with rfl | ⟨r, last, rfl⟩
    · simp at hq
    · simp only [List.concat_eq_append, List.getLast?_concat, List.dropLast_concat] at hq hmem
      split at hq
      · rename_i hr
        cases hq
        rwa [hr] at hmem
      · cases hq
  · intro hmem
    exact ⟨_, hmem, by simp⟩

/-- An entry put in at a vacant place is one more entry in its directory, or in another one. -/
theorem children_insert_of_vacant {s : Store} {p : Place} (h : s.get? p = none) (e : Entry)
    (q : Place) :
    (s.insert p e).children q = s.children q ∨
      ∃ name, p = q ++ [name] ∧ (s.insert p e).children q = (name, e) :: s.children q := by
  rw [insert, erase_of_vacant h, children, List.filterMap_cons, ← children]
  rcases List.eq_nil_or_concat p with rfl | ⟨r, name, rfl⟩
  · exact Or.inl rfl
  · simp only [List.concat_eq_append, List.getLast?_concat, List.dropLast_concat]
    by_cases hr : r = q
    · exact Or.inr ⟨name, by rw [hr], by simp [hr]⟩
    · exact Or.inl (by simp [hr])

theorem get?_enter (s : Store) (name : Text) (p : Place) :
    (s.enter name).get? p = s.get? (name :: p) := by
  obtain ⟨entries⟩ := s
  induction entries with
  | nil =>
      rfl
  | cons entry entries ih =>
      obtain ⟨r, e⟩ := entry
      cases r with
      | nil =>
          simpa [enter, get?_cons] using ih
      | cons first rest =>
          by_cases hf : first = name
          · subst hf
            have hcons : ({ entries := (first :: rest, e) :: entries } : Store).enter first =
                { entries :=
                    (rest, e) :: (({ entries := entries } : Store).enter first).entries } := by
              simp [enter]
            rw [hcons, get?_cons, get?_cons, ih]
            simp
          · have hskip : ({ entries := (first :: rest, e) :: entries } : Store).enter name =
                ({ entries := entries } : Store).enter name := by
              simp [enter, hf]
            have hne : name ≠ first := fun h => hf h.symm
            rw [hskip, ih, get?_cons]
            simp [hne]

theorem get?_within (s : Store) (p q : Place) :
    (s.within p).get? q = s.get? (p ++ q) := by
  induction p generalizing s with
  | nil => rfl
  | cons name p ih =>
      calc ((s.enter name).within p).get? q
          = (s.enter name).get? (p ++ q) := ih (s.enter name)
        _ = s.get? (name :: (p ++ q)) := get?_enter s name (p ++ q)

theorem enter_within (s : Store) (p : Place) (name : Text) :
    (s.within p).enter name = s.within (p ++ [name]) := by
  simp [within, List.foldl_append]

end Reading

section Comparing

theorem Keeps.refl (s : Store) : s.Keeps s :=
  fun _ _ h => h

theorem Keeps.trans (hu : u.Keeps t) (ht : t.Keeps s) : u.Keeps s :=
  fun p e h => hu p e (ht p e h)

theorem Keeps.ways (h : t.Keeps s) : t.KeepsWays s :=
  fun p e hp _ => h p e hp

/-- An entry put in where nothing was leaves all others in place. -/
theorem keeps_insert_of_vacant (h : s.get? p = none) (e : Entry) :
    (s.insert p e).Keeps s := by
  intro q f hq
  have hne : q ≠ p := by
    rintro rfl
    rw [h] at hq
    cases hq
  rw [get?_insert_of_ne s e hne]
  exact hq

/-- No way leads over a file. -/
theorem keepsWays_insert_file (s : Store) (p : Place) (mode : Nat) (bytes : Bytes) :
    s.KeepsWays (s.insert p (.file mode bytes)) := by
  intro q e hq he
  by_cases hqp : q = p
  · rw [hqp, get?_insert_self] at hq
    cases hq
    cases he
  · rwa [get?_insert_of_ne s _ hqp] at hq

end Comparing

/-- A directory is at a place, which may be the root. -/
def HasDirectory (s : Store) (p : Place) : Prop :=
  p = [] ∨ s.get? p = some .directory

instance (s : Store) (p : Place) : Decidable (s.HasDirectory p) :=
  inferInstanceAs (Decidable (p = [] ∨ s.get? p = some .directory))

/-- Every name on the way to an entry can be a name, and every entry is in a directory. -/
structure IsTree (s : Store) : Prop where
  isName : ∀ entry ∈ s.entries, ∀ name ∈ entry.1, Path.isName name = true ∧ name ≠ ".."
  inDirectory : ∀ entry ∈ s.entries, s.HasDirectory entry.1.dropLast

section Trees

/-- Nothing is below a vacant place. -/
theorem IsTree.get?_below (htree : s.IsTree) (hp : p ≠ []) (hvacant : s.get? p = none)
    (hbelow : p <+: q) : s.get? q = none := by
  obtain ⟨names, rfl⟩ := hbelow
  induction names using List.reverseRecOn with
  | nil => simpa using hvacant
  | append_singleton names name ih =>
      rw [← List.append_assoc]
      by_contra hsome
      obtain ⟨e, he⟩ := Option.ne_none_iff_exists'.mp hsome
      have hdir := htree.inDirectory _ (mem_entries_of_get? he)
      rw [List.dropLast_concat, HasDirectory, ih] at hdir
      simp [hp] at hdir

end Trees

end Store
end NoteTemplates
