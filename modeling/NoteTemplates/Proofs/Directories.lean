import Mathlib.Data.List.Induction
import NoteTemplates.Proofs.Calls

/-!
# Making directories

Making a directory with the missing ones above it adds directories only, each at a vacant
place to which the way of the path led. The relation `Store.Grows` says so for two stores.
The results are these.

* Every state on the way stands in the relation to the first one, and the last one to it,
  also if the call fails.
* If the call succeeds, its path leads to a directory.
* Where the path led to a directory before, nothing is added.
* Where it did not, and has no double dots, the directory to which it leads afterwards was
  not there before, nor was anything in it.
-/

namespace NoteTemplates

section Ways

/-- A path followed by more steps. -/
def Path.extend (p : Path) (steps : List Path.Step) : Path :=
  { p with steps := p.steps ++ steps }

@[simp] theorem Path.extend_nil (p : Path) : p.extend [] = p := by
  simp [Path.extend]

/-- The first path is on the way of the second, which may be itself. -/
def Path.OnTheWay (q p : Path) : Prop :=
  ∃ steps, p = q.extend steps

theorem Path.OnTheWay.refl (p : Path) : p.OnTheWay p :=
  ⟨[], p.extend_nil.symm⟩

theorem Path.OnTheWay.trans {p q r : Path} (hq : r.OnTheWay q) (hp : q.OnTheWay p) :
    r.OnTheWay p := by
  obtain ⟨before, rfl⟩ := hq
  obtain ⟨after, rfl⟩ := hp
  exact ⟨before ++ after, by simp [Path.extend]⟩

theorem Path.onTheWay_parent (p : Path) : p.parent.OnTheWay p := by
  rcases p.steps_eq_nil_or with hnil | ⟨n, hsteps⟩
  · refine ⟨[], ?_⟩
    obtain ⟨anchor, steps⟩ := p
    obtain rfl : steps = [] := hnil
    rfl
  · refine ⟨[n], ?_⟩
    obtain ⟨anchor, steps⟩ := p
    simpa [Path.extend, Path.parent] using hsteps

theorem Path.extend_append_singleton (p : Path) (steps : List Path.Step) (n : Path.Step) :
    p.extend (steps ++ [n]) = (p.extend steps).snoc n := by
  simp [Path.extend, Path.snoc]

theorem Path.parts_extend (p : Path) (steps : List Path.Step) :
    (p.extend steps).parts = p.parts ++ steps.map (·.val) := by
  simp [Path.extend, Path.parts]

@[simp] theorem Path.origin_extend (p : Path) (steps : List Path.Step) (base : Place) :
    (p.extend steps).origin base = p.origin base := rfl

/-- The walk of a longer path is the walk of the further steps from the directory. -/
theorem Store.find_extend {s : Store} {base : Place} {p : Path} {directory : Place}
    (h : s.find base true p.toText = .ok (.found directory .directory)) :
    ∃ left, ∀ follow n steps, s.find base follow (p.extend (n :: steps)).toText =
      if Text.byteLength (p.extend (n :: steps)).toText ≥ Walk.pathLimit then
        .error .nameTooLong
      else Walk.along s follow left directory ((n :: steps).map (·.val)) := by
  rw [Path.find_toText] at h
  split at h
  · cases h
  · rcases Walk.along_append s Walk.linkLimit (p.origin base) p.parts with
      ⟨directory', left, hdir, hrest⟩ | ⟨hdir, -⟩
    · rw [hdir] at h
      cases h
      refine ⟨left, fun follow n steps => ?_⟩
      rw [Path.find_toText, Path.parts_extend, Path.origin_extend, List.map_cons, hrest]
    · exact absurd h (hdir directory)

/-- A path goes nowhere from a vacant place. -/
theorem Store.find_extend_of_vacant {s : Store} {base : Place} {p : Path} {place : Place}
    (h : s.find base false p.toText = .ok (.vacant place)) (follow : Bool) (n : Path.Step)
    (steps : List Path.Step) :
    s.find base follow (p.extend (n :: steps)).toText =
      if Text.byteLength (p.extend (n :: steps)).toText ≥ Walk.pathLimit then
        .error .nameTooLong
      else .error .noEntry := by
  rw [Path.find_toText] at h
  split at h
  · cases h
  · rw [Path.find_toText, Path.parts_extend, Path.origin_extend, List.map_cons,
      Walk.along_append_of_vacant _ _ _ h]

/-- Where a path leads to a directory, every path on its way does. -/
theorem Store.find_of_onTheWay {s : Store} {base : Place} {p q : Path} {place : Place}
    (hq : q.OnTheWay p)
    (h : s.find base true p.toText = .ok (.found place .directory)) :
    ∃ r, s.find base true q.toText = .ok (.found r .directory) := by
  obtain ⟨steps, rfl⟩ := hq
  induction steps using List.reverseRecOn generalizing place with
  | nil => exact ⟨place, by simpa using h⟩
  | append_singleton steps n ih =>
      rw [Path.extend_append_singleton] at h
      rcases Path.find_last s base (Path.steps_snoc (q.extend steps) n) with
        ⟨directory, left, hparent, -⟩ | ⟨-, herr⟩
      · rw [Path.parent_snoc] at hparent
        exact ih hparent
      · obtain ⟨errno, herr⟩ := herr true
        rw [herr] at h
        cases h

/-- The names of a path and its text are not too long to be walked. -/
def Path.IsShort (p : Path) : Prop :=
  Text.byteLength p.toText < Walk.pathLimit ∧
    ∀ n ∈ p.steps, Text.byteLength n.val ≤ Walk.nameLimit

end Ways

namespace Store

/-- Nothing is where a path leads, or the way to it is not there. -/
def Lacks (s : Store) (base : Place) (p : Path) : Prop :=
  (∃ r, s.find base true p.toText = .ok (.vacant r)) ∨
    s.find base true p.toText = .error .noEntry

variable {base : Place} {p q : Path} {s t u : Store} {r : Place}

/--
A store with directories added to it, each at a vacant place where a path on the way of `p`
led.
-/
inductive Grows (base : Place) (p : Path) (s : Store) : Store → Prop
  | refl : Grows base p s s
  | made {t : Store} {q : Path} {place : Place}
      (before : Grows base p s t) (onTheWay : q.OnTheWay p)
      (vacant : t.find base false q.toText = .ok (.vacant place)) :
      Grows base p s (t.insert place .directory)

section Grows

theorem Grows.trans (ht : Grows base p s t) (hu : Grows base p t u) : Grows base p s u := by
  induction hu with
  | refl => exact ht
  | made _ onTheWay vacant ih => exact ih.made onTheWay vacant

theorem Grows.widen (hq : q.OnTheWay p) (h : Grows base q s t) : Grows base p s t := by
  induction h with
  | refl => exact .refl
  | made _ onTheWay vacant ih => exact ih.made (onTheWay.trans hq) vacant

theorem Grows.keeps (h : Grows base p s t) : t.Keeps s := by
  induction h with
  | refl => exact Keeps.refl s
  | made _ _ vacant ih =>
      exact (keeps_insert_of_vacant (get?_of_find_vacant vacant) .directory).trans ih

/-- A directory is found where a path led to a vacant place at which it was made. -/
theorem find_insert_directory
    (h : t.find base false q.toText = .ok (.vacant r)) :
    (t.insert r .directory).find base true q.toText = .ok (.found r .directory) := by
  have hways : (t.insert r .directory).KeepsWays t :=
    (keeps_insert_of_vacant (get?_of_find_vacant h) .directory).ways
  have hfound : (t.insert r .directory).find base true q.toText = _ :=
    find_of_find_vacant hways (by simp) (by simp) h
  rwa [get?_insert_self] at hfound

/-- Where a path leads stays so when directories are added. -/
theorem Grows.find_of_find_found {follow : Bool} {path : Text} {e : Entry}
    (hgrows : Grows base p s t)
    (h : s.find base follow path = .ok (.found r e)) :
    t.find base follow path = .ok (.found r e) :=
  find_found_of_keeps hgrows.keeps.ways (hgrows.keeps r) h

/-- What is new is a directory to which a path on the way leads. -/
theorem Grows.new {e : Entry} (hgrows : Grows base p s t) (h : t.get? r = some e) :
    s.get? r = some e ∨
      (s.get? r = none ∧ e = .directory ∧
        ∃ q : Path, q.OnTheWay p ∧
          t.find base true q.toText = .ok (.found r .directory)) := by
  induction hgrows generalizing e with
  | refl => exact Or.inl h
  | @made t q place before onTheWay vacant ih =>
      have hkeeps : (t.insert place .directory).Keeps t :=
        keeps_insert_of_vacant (get?_of_find_vacant vacant) .directory
      by_cases hr : r = place
      · subst hr
        rw [get?_insert_self] at h
        cases h
        right
        refine ⟨?_, rfl, q, onTheWay, find_insert_directory vacant⟩
        cases hs : s.get? r with
        | none => rfl
        | some f =>
            have hnone := get?_of_find_vacant vacant
            rw [before.keeps r f hs] at hnone
            cases hnone
      · rw [get?_insert_of_ne t .directory hr] at h
        rcases ih h with hold | ⟨hnone, he, q', hq', hfind⟩
        · exact Or.inl hold
        · right
          exact ⟨hnone, he, q', hq', find_found_of_keeps hkeeps.ways (hkeeps r) hfind⟩

/-- What is no directory is not new. -/
theorem Grows.get?_of_ne_directory {e : Entry} (hgrows : Grows base p s t)
    (h : t.get? r = some e) (he : e ≠ .directory) : s.get? r = some e := by
  rcases hgrows.new h with hold | ⟨-, hdir, -⟩
  · exact hold
  · exact absurd hdir he

/-- An entry that is there after directories were added is an old one or a directory. -/
theorem Grows.mem_entries {e : Entry} (hgrows : Grows base p s t) (h : (r, e) ∈ t.entries) :
    (r, e) ∈ s.entries ∨ e = .directory := by
  induction hgrows with
  | refl => exact Or.inl h
  | made _ _ _ ih =>
      rcases mem_entries_insert h with hnew | hold
      · exact Or.inr hnew
      · exact ih hold

/-- Where the path led to a directory, nothing was added. -/
theorem Grows.eq_of_found (hgrows : Grows base p s t)
    (h : s.find base true p.toText = .ok (.found r .directory)) : t = s := by
  induction hgrows with
  | refl => rfl
  | @made t q place _ onTheWay vacant ih =>
      subst ih
      obtain ⟨place', hfound⟩ := find_of_onTheWay onTheWay h
      rw [find_true_of_find (by simp) vacant] at hfound
      cases hfound

end Grows

section Fresh

/-- Below a directory under which there are directories only, a way goes straight down. -/
theorem place_of_find_extend {top place : Place} {steps : List Path.Step}
    (htop : t.find base true q.toText = .ok (.found top .directory))
    (hdirs : ∀ r e, top <+: r → t.get? r = some e → e = .directory)
    (hup : ∀ n ∈ steps, n.val ≠ "..")
    (h : t.find base true (q.extend steps).toText = .ok (.found place .directory)) :
    place = top ++ steps.map (·.val) := by
  cases steps with
  | nil =>
      rw [Path.extend_nil, htop] at h
      cases h
      simp
  | cons n steps =>
      obtain ⟨left, hleft⟩ := Store.find_extend htop
      have hproper : ∀ name ∈ (n :: steps).map (·.val), Walk.IsProper name := by
        intro name hname
        obtain ⟨m, hm, rfl⟩ := List.mem_map.mp hname
        exact m.isProper (hup m hm)
      rw [hleft] at h
      split at h
      · cases h
      · rcases Walk.along_below true hdirs left (List.prefix_refl top) hproper with
          hend | ⟨r, hend⟩ | hend | ⟨hend, -⟩
        · rw [h] at hend
          cases hend
          rfl
        · rw [h] at hend
          cases hend
        · rw [h] at hend
          cases hend
        · rw [h] at hend
          cases hend

/-- A path that led to a vacant place leads to the directory that was made there. -/
theorem Grows.find_top {top : Place} (h : Grows base p s t)
    (hvacant : s.find base false q.toText = .ok (.vacant top))
    (hdir : t.get? top = some .directory) (follow : Bool) :
    t.find base follow q.toText = .ok (.found top .directory) := by
  have hfound : t.find base follow q.toText = _ :=
    find_of_find_vacant h.keeps.ways (by simp) (by simp [hdir]) hvacant
  rwa [hdir] at hfound

/-- What is below a place that was empty ground are directories. -/
theorem Grows.eq_directory {e : Entry} (h : Grows base p s t)
    (hnone : s.get? r = none) (hr : t.get? r = some e) : e = .directory := by
  rcases h.new hr with hs | ⟨-, he, -⟩
  · rw [hnone] at hs
    cases hs
  · exact he

/--
A way without double dots that goes on from a vacant place goes straight down when
directories are added, as far as they are there.
-/
theorem Grows.find_extend (htree : s.IsTree) (h : Grows base p s t) {top : Place}
    {steps : List Path.Step} (hup : ∀ n ∈ steps, n.val ≠ "..")
    (hvacant : s.find base false q.toText = .ok (.vacant top))
    (hdir : t.get? top = some .directory) :
    t.find base true (q.extend steps).toText =
        .ok (.found (top ++ steps.map (·.val)) .directory) ∨
      t.Lacks base (q.extend steps) ∨
      (t.find base true (q.extend steps).toText = .error .nameTooLong ∧
        (Text.byteLength (q.extend steps).toText ≥ Walk.pathLimit ∨
          ∃ n ∈ steps, Text.byteLength n.val > Walk.nameLimit)) := by
  have htop := h.find_top hvacant hdir true
  cases steps with
  | nil => exact Or.inl (by simpa using htop)
  | cons n steps =>
      obtain ⟨left, hleft⟩ := Store.find_extend htop
      have hdirs : ∀ r e, top <+: r → t.get? r = some e → e = .directory := by
        intro r e hr he
        exact h.eq_directory (htree.get?_below (ne_nil_of_find_vacant hvacant)
          (get?_of_find_vacant hvacant) hr) he
      have hproper : ∀ name ∈ (n :: steps).map (·.val), Walk.IsProper name := by
        intro name hname
        obtain ⟨m, hm, rfl⟩ := List.mem_map.mp hname
        exact m.isProper (hup m hm)
      rw [Lacks, hleft]
      split
      · rename_i hlong
        exact Or.inr (Or.inr ⟨rfl, Or.inl hlong⟩)
      · rcases Walk.along_below true hdirs left (List.prefix_refl top) hproper with
          hfound | hvacant | hmissing | ⟨hlong, name, hname, hbytes⟩
        · exact Or.inl hfound
        · exact Or.inr (Or.inl (Or.inl hvacant))
        · exact Or.inr (Or.inl (Or.inr hmissing))
        · obtain ⟨m, hm, rfl⟩ := List.mem_map.mp hname
          exact Or.inr (Or.inr ⟨hlong, Or.inr ⟨m, hm, hbytes⟩⟩)

/--
If directories were added, the first of them was made at a vacant place where a path on the
way led.
-/
theorem Grows.top (h : Grows base p s t) :
    t = s ∨ ∃ (q : Path) (top : Place), q.OnTheWay p ∧
      s.find base false q.toText = .ok (.vacant top) ∧
      t.get? top = some .directory := by
  induction h with
  | refl => exact Or.inl rfl
  | @made t q place before onTheWay vacant ih =>
      right
      rcases ih with rfl | ⟨q', top, onTheWay', hvacant, hdir⟩
      · exact ⟨q, place, onTheWay, vacant, get?_insert_self t place .directory⟩
      · refine ⟨q', top, onTheWay', hvacant, ?_⟩
        exact keeps_insert_of_vacant (get?_of_find_vacant vacant) .directory top _ hdir

/--
The directory to which a way without double dots leads after directories were added was
empty ground before, if the way led to no directory then.
-/
theorem Grows.fresh (htree : s.IsTree) (hup : ∀ n ∈ p.steps, n.val ≠ "..")
    (h : Grows base p s t) {place : Place}
    (hbefore : ∀ r, s.find base true p.toText ≠ .ok (.found r .directory))
    (hafter : t.find base true p.toText = .ok (.found place .directory)) {r : Place}
    (hr : place <+: r) :
    s.get? r = none := by
  rcases h.top with rfl | ⟨q, top, ⟨steps, rfl⟩, hvacant, hdir⟩
  · exact absurd hafter (hbefore place)
  · have hsteps : ∀ n ∈ steps, n.val ≠ ".." := fun n hn =>
      hup n (by simp [Path.extend, hn])
    have hnone {x : Place} (hx : top <+: x) : s.get? x = none :=
      htree.get?_below (ne_nil_of_find_vacant hvacant) (get?_of_find_vacant hvacant) hx
    have hend := place_of_find_extend (h.find_top hvacant hdir true)
      (fun x e hx he => h.eq_directory (hnone hx) he) hsteps hafter
    exact hnone ((List.prefix_append top _).trans (hend ▸ hr))

/-- If directories were added on a way, the way was not there before. -/
theorem Grows.lacks (h : Grows base p s t) (hne : t ≠ s) (hshort : p.IsShort) :
    s.Lacks base p := by
  obtain ⟨htext, -⟩ := hshort
  rcases h.top with rfl | ⟨q, top, ⟨steps, rfl⟩, hvacant, -⟩
  · exact absurd rfl hne
  · cases steps with
    | nil =>
        rw [Path.extend_nil]
        exact Or.inl ⟨top, find_true_of_find (by simp) hvacant⟩
    | cons n steps =>
        right
        rw [find_extend_of_vacant hvacant, if_neg (by omega)]

/-- A way without double dots on which directories were added is there or is not there yet. -/
theorem Grows.found_or_lacks (htree : s.IsTree) (hup : ∀ n ∈ p.steps, n.val ≠ "..")
    (h : Grows base p s t) (hne : t ≠ s) (hshort : p.IsShort) :
    (∃ place, t.find base true p.toText = .ok (.found place .directory)) ∨
      t.Lacks base p := by
  obtain ⟨htext, hnames⟩ := hshort
  rcases h.top with rfl | ⟨q, top, ⟨steps, rfl⟩, hvacant, hdir⟩
  · exact absurd rfl hne
  · have hsteps : ∀ n ∈ steps, n ∈ (q.extend steps).steps := fun n hn => by
      simp [Path.extend, hn]
    rcases h.find_extend htree (fun n hn => hup n (hsteps n hn)) hvacant hdir with
      hfound | hlacks | ⟨-, hlong | ⟨n, hn, hlong⟩⟩
    · exact Or.inl ⟨_, hfound⟩
    · exact Or.inr hlacks
    · omega
    · have hle := hnames n (hsteps n hn)
      omega

/--
Nothing is at a name in a directory that was made on a way without double dots: the way ends
at the directory.
-/
theorem Grows.entryAt?_snoc (htree : s.IsTree) {n : Path.Step}
    (hup : ∀ m ∈ (p.snoc n).steps, m.val ≠ "..") (h : Grows base p s t)
    (hbefore : ∀ r, s.find base true p.toText ≠ .ok (.found r .directory)) :
    t.entryAt? base false (p.snoc n).toText = none := by
  have hn : n.val ≠ ".." := hup n (by simp [Path.snoc])
  have hup' : ∀ m ∈ p.steps, m.val ≠ ".." := fun m hm => hup m (by simp [Path.snoc, hm])
  rw [Option.eq_none_iff_forall_ne_some]
  intro e he
  obtain ⟨r, hr⟩ := entryAt?_eq_some.mp he
  rcases Path.find_last t base (Path.steps_snoc p n) with
    ⟨directory, left, hparent, hlook⟩ | ⟨-, herr⟩
  · rw [Path.parent_snoc] at hparent
    rw [hlook, Walk.along_singleton (n.isProper hn) t left directory (by simp)] at hr
    split at hr
    · cases hr
    · have hfresh {x : Place} (hx : directory <+: x) : s.get? x = none :=
        h.fresh htree hup' hbefore hparent hx
      have hbelow : directory <+: directory ++ [n.val] := List.prefix_append _ _
      cases hget : t.get? (directory ++ [n.val]) with
      | none =>
          rw [hget] at hr
          cases hr
      | some f =>
          rcases h.new hget with hold | ⟨-, -, q, ⟨steps, rfl⟩, hq⟩
          · rw [hfresh hbelow] at hold
            cases hold
          · -- the way to the directory would go on from below it
            have hdirs : ∀ x e, directory ++ [n.val] <+: x → t.get? x = some e →
                e = .directory := fun x e hx he =>
              h.eq_directory (hfresh (hbelow.trans hx)) he
            have hsteps : ∀ m ∈ steps, m.val ≠ ".." := fun m hm =>
              hup' m (by simp [Path.extend, hm])
            have hend := place_of_find_extend hq hdirs hsteps hparent
            have hlength := congrArg List.length hend
            simp at hlength
  · obtain ⟨errno, herr⟩ := herr false
    rw [herr] at hr
    cases hr

end Fresh

end Store

namespace Disk

open Effect

/-- A state between two stores, the second of which has directories added to the first one. -/
def Between (base : Place) (p : Path) (last s t : Store) : Prop :=
  Store.Grows base p s t ∧ Store.Grows base p t last

/--
What making a directory comes to: the states on the way have directories added on the way of
the path, none of which is taken away again, and after a success the path leads to a
directory.
-/
structure Makes (around : Surroundings) (p : Path) (w : World)
    (outcome : Except Failure Unit × World) : Prop where
  leadsTo : w.LeadsTo (Between around.base p outcome.2.store) outcome.2
  directory : outcome.1 = .ok () →
    ∃ place, outcome.2.store.find around.base true p.toText = .ok (.found place .directory)

section Makes

variable {around : Surroundings} {p q : Path} {u v w : World} {f : Failure}

theorem Between.widen {base : Place} {last s t : Store} (hq : q.OnTheWay p)
    (h : Between base q last s t) : Between base p last s t :=
  ⟨h.1.widen hq, h.2.widen hq⟩

theorem Makes.grows {outcome : Except Failure Unit × World} (h : Makes around p w outcome) :
    Store.Grows around.base p w.store outcome.2.store :=
  (h.leadsTo.mono And.left).store fun _ => .refl

theorem makes_error (h : w.LeadsTo (Between around.base p v.store) v) :
    Makes around p w (.error f, v) :=
  ⟨h, fun hok => by cases hok⟩

/-- What comes after the directory on the way was made. -/
theorem Makes.after {outcome : Except Failure Unit × World} (hq : q.OnTheWay p)
    (hv : w.LeadsTo (Between around.base q v.store) v) (h : Makes around p v outcome) :
    Makes around p w outcome := by
  have hv' : w.LeadsTo (Between around.base p v.store) v := hv.mono fun hg => hg.widen hq
  have hgrows : Store.Grows around.base p w.store v.store :=
    (hv'.mono And.left).store fun _ => .refl
  refine ⟨?_, h.directory⟩
  refine (hv'.mono fun hg => ⟨hg.1, hg.2.trans h.grows⟩).append h.leadsTo fun s hs => ?_
  exact ⟨hgrows.trans hs.1, hs.2⟩

theorem makes_make (around : Surroundings) (p : Path) (w : World) :
    Makes around p w ((makeMissing.make p.toText).perform around w) := by
  simp only [makeMissing.make, perform_bind, perform_attempt]
  rcases makeDirectory_cases around w p with ⟨f, hf⟩ | ⟨place, hvacant, hok⟩
  · rw [hf]
    cases f with
    | system e =>
        simp only [perform_bind, perform_isDirectory]
        split
        · rename_i hdir
          simp only [Bool.and_eq_true, decide_eq_true_eq] at hdir
          obtain ⟨place, hfound⟩ := Store.entryAt?_eq_some.mp hdir.2
          exact ⟨World.LeadsTo.refl _ _, fun _ => ⟨place, hfound⟩⟩
        · exact makes_error (World.LeadsTo.refl _ _)
    | _ => exact makes_error (World.LeadsTo.refl _ _)
  · rw [hok]
    refine ⟨(World.LeadsTo.refl _ w).moved ⟨?_, .refl⟩,
      fun _ => ⟨place, Store.find_insert_directory hvacant⟩⟩
    exact Store.Grows.refl.made (Path.OnTheWay.refl p) hvacant

/-- The text before the last step of a path is empty or that of its directory. -/
theorem splitPath_fst_toText {n : Path.Step} (h : p.steps = p.parent.steps ++ [n]) :
    (splitPath p.toText).1 = [] ∨ (splitPath p.toText).1 = p.parent.toText := by
  rw [Path.splitPath_toText h]
  dsimp only
  split
  · rename_i hnil
    rw [Path.toText_of_steps_eq_nil hnil, Path.anchor_parent]
    cases p.anchor with
    | here => exact Or.inl rfl
    | root => exact Or.inr rfl
    | doubleRoot => exact Or.inr rfl
  · exact Or.inr rfl

/-- Making a directory with the missing ones above it, by induction on how many there may be. -/
theorem makes_makeMissing (around : Surroundings) (depth : Nat) (p : Path) (w : World) :
    Makes around p w ((makeMissing depth p.toText).perform around w) := by
  induction depth generalizing p w with
  | zero => exact makes_error (World.LeadsTo.refl _ _)
  | succ depth ih =>
      have hmake (v : World) := makes_make around p v
      simp only [makeMissing]
      rcases p.steps_eq_nil_or with hnil | ⟨n, hsteps⟩
      · rw [if_pos (Path.splitPath_toText_of_steps_eq_nil hnil)]
        exact hmake w
      · have htail : (splitPath p.toText).2 ≠ "." := by
          rw [Path.splitPath_toText hsteps]
          exact n.ne_dot
        rcases splitPath_fst_toText hsteps with hhead | hhead
        · rw [hhead]
          exact hmake w
        · rw [hhead]
          split
          · exact hmake w
          · simp only [perform_bind, perform_present]
            split
            · exact hmake w
            · -- the directories above come first, and their failure may be passed over
              have hparent := ih p.parent w
              rw [perform_bind, perform_attempt]
              cases hrun : (makeMissing depth p.parent.toText).perform around w with
              | mk result v =>
                  rw [hrun] at hparent
                  have hlead := hparent.leadsTo
                  have hstop : w.LeadsTo (Between around.base p v.store) v :=
                    hlead.mono fun hg => hg.widen p.onTheWay_parent
                  have hgo := (hmake v).after p.onTheWay_parent hlead
                  cases result with
                  | ok => exact hgo
                  | error f =>
                      cases f with
                      | system e =>
                          dsimp only
                          split
                          · exact hgo
                          · exact makes_error hstop
                      | _ => exact makes_error hstop

/-- Making a directory with the missing ones above it. -/
theorem makes_makeDirectories (around : Surroundings) (p : Path) (w : World) :
    Makes around p w ((makeDirectories p.toText).perform around w) := by
  rw [makeDirectories, perform_bind]
  rcases checkFault_cases around .makeDirectories [p.toText] with
    ⟨f, hf⟩ | hok
  · rw [hf]
    exact makes_error (World.LeadsTo.refl _ _)
  · rw [hok]
    exact makes_makeMissing around _ p w

end Makes

section Prepared

theorem looksAtStoreOnly_make (path : Text) : LooksAtStoreOnly (makeMissing.make path) := by
  refine looksAtStoreOnly_bind
    (looksAtStoreOnly_attempt (looksAtStoreOnly_makeDirectory path)) fun result => ?_
  split
  · refine looksAtStoreOnly_bind (looksAtStoreOnly_isDirectory path) fun _ => ?_
    split
    · exact looksAtStoreOnly_pure _
    · exact looksAtStoreOnly_throw _
  · exact looksAtStoreOnly_throw _
  · exact looksAtStoreOnly_pure _

theorem looksAtStoreOnly_makeMissing (depth : Nat) (path : Text) :
    LooksAtStoreOnly (makeMissing depth path) := by
  induction depth generalizing path with
  | zero => exact looksAtStoreOnly_throw _
  | succ depth ih =>
      have hmake := looksAtStoreOnly_make path
      have hrest : LooksAtStoreOnly
          (if (splitPath path).2 = "." then pure () else makeMissing.make path) := by
        split
        · exact looksAtStoreOnly_pure _
        · exact hmake
      simp only [makeMissing]
      split
      · exact hmake
      · refine looksAtStoreOnly_bind (looksAtStoreOnly_present _) fun there => ?_
        split
        · exact hmake
        · refine looksAtStoreOnly_bind
            (looksAtStoreOnly_attempt (ih _)) fun result => ?_
          split
          · split
            · exact hrest
            · exact looksAtStoreOnly_bind (looksAtStoreOnly_throw _) fun _ => hrest
          · exact looksAtStoreOnly_bind (looksAtStoreOnly_throw _) fun _ => hrest
          · exact hrest

theorem looksAtStoreOnly_makeDirectories (path : Text) :
    LooksAtStoreOnly (makeDirectories path) :=
  looksAtStoreOnly_bind (looksAtStoreOnly_checkFault _ _) fun _ =>
    looksAtStoreOnly_makeMissing _ _

/-- A store after the directories on the way of a path were made, as far as they can be. -/
def prepared (around : Surroundings) (s : Store) (p : Path) : Store :=
  ((makeDirectories p.toText).perform around { store := s }).2.store

theorem store_makeDirectories (around : Surroundings) (p : Path) (w : World) :
    ((makeDirectories p.toText).perform around w).2.store = prepared around w.store p :=
  (looksAtStoreOnly_makeDirectories p.toText around w { store := w.store } rfl).2

theorem grows_prepared (around : Surroundings) (s : Store) (p : Path) :
    Store.Grows around.base p s (prepared around s p) :=
  (makes_makeDirectories around p { store := s }).grows

end Prepared

section Silent

theorem silent_make (path : Text) : Silent Failure.IsOwn (makeMissing.make path) := by
  refine silent_attempt_bind (silent_makeDirectory path) (fun _ => silent_pure _) fun f hf => ?_
  cases f with
  | system e =>
      refine silent_bind (calm_isDirectory path).silent fun _ => ?_
      split
      · exact silent_pure _
      · exact silent_throw id
  | _ => exact silent_throw hf.isOwn

theorem silent_makeMissing (depth : Nat) (path : Text) :
    Silent Failure.IsOwn (makeMissing depth path) := by
  induction depth generalizing path with
  | zero => exact silent_throw id
  | succ depth ih =>
      have hmake := silent_make path
      have hrest : Silent Failure.IsOwn
          (if (splitPath path).2 = "." then pure () else makeMissing.make path) := by
        split
        · exact silent_pure _
        · exact hmake
      simp only [makeMissing]
      split
      · exact hmake
      · refine silent_bind (calm_present _).silent fun there => ?_
        split
        · exact hmake
        · refine silent_attempt_bind (ih _) (fun _ => hrest) fun f hf => ?_
          have hstop : Silent Failure.IsOwn (do
              throw f
              if (splitPath path).2 = "." then pure () else makeMissing.make path) :=
            silent_bind (silent_throw hf) fun _ => hrest
          cases f with
          | system e =>
              dsimp only
              split
              · exact hrest
              · exact hstop
          | _ => exact hstop

theorem silent_makeDirectories (path : Text) : Silent Failure.IsOwn (makeDirectories path) :=
  silent_bind ((calm_checkFault _ _).silent.mono fun _ h => h.isOwn) fun _ =>
    silent_makeMissing _ path

end Silent

end Disk
end NoteTemplates
