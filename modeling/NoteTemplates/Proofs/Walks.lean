import NoteTemplates.Proofs.Stores

/-!
# Walks

How the end of a walk depends on the store. A walk passes through directories and links
only, and looks at one more entry where it ends. So a walk ends alike in every store that
has the same directories and links on the way and the same entry at its end; it goes over
an added entry only if it ended there before; and a walk to a name in a directory is the
walk to the directory and one more look.

All of it is proved by one induction, `Walk.along_induction`, on the links that may still be
followed and the names that are left.
-/

namespace NoteTemplates

/-- Where a walk ends that looks at a place last: at the entry there, or at the vacant place. -/
def Landing.ofEntry (p : Place) : Option Entry → Landing
  | none => .vacant p
  | some e => .found p e

/-- The place where a walk ends. -/
def Landing.place : Landing → Place
  | .found p _ => p
  | .vacant p => p

@[simp] theorem Landing.place_ofEntry (p : Place) (e : Option Entry) :
    (Landing.ofEntry p e).place = p := by
  cases e <;> rfl

/-- Whether no walk goes on from the end of another: a vacant place or a file is there. -/
def Landing.isFinal : Landing → Bool
  | .found _ e => e.isFile
  | .vacant _ => true

namespace Walk

variable {s t : Store} {follow : Bool}

/-- How a walk goes on at a link: with one link less to follow, if there is one left. -/
def onward (s : Store) (follow : Bool) :
    Nat → Place → List Text → Except Errno Landing
  | 0 => fun _ _ => .error .tooManyLinks
  | links + 1 => along s follow links

/-- A name that is neither the single dot nor the double dot. -/
def IsProper (name : Text) : Prop :=
  name ≠ "." ∧ name ≠ ".."

section Equations

theorem along_eq (s : Store) (follow : Bool) (links : Nat) (here : Place)
    (names : List Text) :
    along s follow links here names =
      stepWith s follow (onward s follow links) (s.within here) here names := by
  cases links <;> rfl

@[simp] theorem along_nil (s : Store) (follow : Bool) (links : Nat) (here : Place) :
    along s follow links here [] = .ok (.found here .directory) := by
  rw [along_eq, stepWith]

theorem along_dot (s : Store) (follow : Bool) (links : Nat) (here : Place)
    (rest : List Text) :
    along s follow links here ("." :: rest) = along s follow links here rest := by
  rw [along_eq, stepWith, along_eq]
  simp

theorem along_up (s : Store) (follow : Bool) (links : Nat) (here : Place)
    (rest : List Text) :
    along s follow links here (".." :: rest) =
      along s follow links here.dropLast rest := by
  have hne : ((".." : String) : Text) ≠ "." := by decide
  rw [along_eq, stepWith, along_eq, if_neg hne, if_pos rfl]

/-- A proper name leads to what is at the name in the directory. -/
theorem along_proper {name : Text} (h : IsProper name) (s : Store) (follow : Bool)
    (links : Nat) (here : Place) (rest : List Text) :
    along s follow links here (name :: rest) =
      if Text.byteLength name > nameLimit then .error .nameTooLong
      else
        match s.get? (here ++ [name]) with
        | none => if rest.isEmpty then .ok (.vacant (here ++ [name])) else .error .noEntry
        | some .directory => along s follow links (here ++ [name]) rest
        | some (.file mode bytes) =>
          if rest.isEmpty then .ok (.found (here ++ [name]) (.file mode bytes))
          else .error .notDirectory
        | some (.link target) =>
          if rest.isEmpty && !follow then .ok (.found (here ++ [name]) (.link target))
          else onward s follow links (start here target) (names target ++ rest) := by
  have hinner : (s.within (here ++ [name])).get? [] = s.get? (here ++ [name]) := by
    rw [Store.get?_within, List.append_nil]
  rw [along_eq, stepWith, if_neg h.1, if_neg h.2]
  simp only [Store.enter_within, hinner]
  split
  · rfl
  · cases s.get? (here ++ [name]) with
    | none => rfl
    | some e =>
        cases e with
        | file mode bytes => rfl
        | directory => exact (along_eq s follow links (here ++ [name]) rest).symm
        | link target => rfl

end Equations

/--
Induction along a walk: for a proper name, the statement may be used for the directory
there and, if there is a link left, for the target of a link there.
-/
theorem along_induction {motive : Nat → Place → List Text → Prop}
    (nil : ∀ links here, motive links here [])
    (dot : ∀ links here rest, motive links here rest → motive links here ("." :: rest))
    (up : ∀ links here rest,
      motive links here.dropLast rest → motive links here (".." :: rest))
    (proper : ∀ links here name rest, IsProper name →
      motive links (here ++ [name]) rest →
      (∀ left target, links = left + 1 →
        motive left (start here target) (names target ++ rest)) →
      motive links here (name :: rest)) :
    ∀ links here names, motive links here names := by
  intro links
  induction links using Nat.strongRecOn with
  | ind links ihLinks =>
      intro here ns
      induction ns generalizing here with
      | nil => exact nil links here
      | cons name rest ih =>
          by_cases hdot : name = "."
          · rw [hdot]
            exact dot links here rest (ih here)
          · by_cases hup : name = ".."
            · rw [hup]
              exact up links here rest (ih here.dropLast)
            · refine proper links here name rest ⟨hdot, hup⟩ (ih _) ?_
              intro left target hleft
              exact ihLinks left (by omega) _ _

section Endings

/-- A vacant place where a walk ends has no entry. -/
theorem get?_of_along_vacant {p : Place} (links : Nat) (here : Place) (ns : List Text)
    (h : along s follow links here ns = .ok (.vacant p)) :
    s.get? p = none := by
  induction links, here, ns using along_induction with
  | nil links here => simp at h
  | dot links here rest ih => exact ih (by rwa [along_dot] at h)
  | up links here rest ih => exact ih (by rwa [along_up] at h)
  | proper links here name rest hname ihDir ihLink =>
      rw [along_proper hname] at h
      split at h
      · cases h
      · split at h
        · rename_i hget
          split at h
          · cases h
            exact hget
          · cases h
        · exact ihDir h
        · split at h <;> cases h
        · split at h
          · cases h
          · cases links with
            | zero => cases h
            | succ left => exact ihLink left _ rfl h

/-- The place where a walk ends without coming upon a directory is below the root. -/
theorem ne_nil_of_along_vacant {p : Place} (links : Nat) (here : Place) (ns : List Text)
    (h : along s follow links here ns = .ok (.vacant p)) :
    p ≠ [] := by
  induction links, here, ns using along_induction with
  | nil links here => simp at h
  | dot links here rest ih => exact ih (by rwa [along_dot] at h)
  | up links here rest ih => exact ih (by rwa [along_up] at h)
  | proper links here name rest hname ihDir ihLink =>
      rw [along_proper hname] at h
      split at h
      · cases h
      · split at h
        · split at h
          · cases h
            simp
          · cases h
        · exact ihDir h
        · split at h <;> cases h
        · split at h
          · cases h
          · cases links with
            | zero => cases h
            | succ left => exact ihLink left _ rfl h

/-- The entry at the end of a walk can be read there, unless it is a directory. -/
theorem get?_of_along_found {p : Place} {e : Entry} (he : e ≠ .directory)
    (links : Nat) (here : Place) (ns : List Text)
    (h : along s follow links here ns = .ok (.found p e)) :
    s.get? p = some e := by
  induction links, here, ns using along_induction with
  | nil links here =>
      simp only [along_nil, Except.ok.injEq, Landing.found.injEq] at h
      exact absurd h.2.symm he
  | dot links here rest ih => exact ih (by rwa [along_dot] at h)
  | up links here rest ih => exact ih (by rwa [along_up] at h)
  | proper links here name rest hname ihDir ihLink =>
      rw [along_proper hname] at h
      split at h
      · cases h
      · split at h
        · split at h <;> cases h
        · exact ihDir h
        · rename_i hget
          split at h
          · cases h
            exact hget
          · cases h
        · rename_i hget
          split at h
          · cases h
            exact hget
          · cases links with
            | zero => cases h
            | succ left => exact ihLink left _ rfl h

end Endings

section Agreeing

/--
A walk ends at the same entry in every store that keeps the directories and links of the
first and the entry at the end.
-/
theorem along_found_of_keeps {p : Place} {e : Entry} (hways : t.KeepsWays s)
    (hend : ∀ f, s.get? p = some f → t.get? p = some f)
    (links : Nat) (here : Place) (ns : List Text)
    (h : along s follow links here ns = .ok (.found p e)) :
    along t follow links here ns = .ok (.found p e) := by
  induction links, here, ns using along_induction with
  | nil links here => simpa using h
  | dot links here rest ih =>
      rw [along_dot] at h ⊢
      exact ih h
  | up links here rest ih =>
      rw [along_up] at h ⊢
      exact ih h
  | proper links here name rest hname ihDir ihLink =>
      rw [along_proper hname] at h ⊢
      split at h
      · cases h
      · rename_i hshort
        rw [if_neg hshort]
        split at h
        · split at h <;> cases h
        · rename_i hget
          rw [hways _ _ hget rfl]
          exact ihDir h
        · rename_i hget
          split at h
          · rename_i hrest
            cases h
            rw [hend _ hget]
            simp [hrest]
          · cases h
        · rename_i target hget
          rw [hways _ _ hget rfl]
          split at h
          · rename_i hstop
            cases h
            simp [hstop]
          · rename_i hgo
            simp only [hgo]
            cases links with
            | zero => cases h
            | succ left => exact ihLink left _ rfl h

/--
Where a walk ended at a vacant place or a file, a walk in a store that keeps the directories
and links ends at whatever is there, if that is no link to be followed.
-/
theorem along_of_along_final {follow' : Bool} {landing : Landing}
    (hways : t.KeepsWays s) (hfollow : follow = true → follow' = true)
    (hfinal : landing.isFinal = true)
    (hlink : ∀ target, t.get? landing.place ≠ some (.link target))
    (links : Nat) (here : Place) (ns : List Text)
    (h : along s follow links here ns = .ok landing) :
    along t follow' links here ns =
      .ok (Landing.ofEntry landing.place (t.get? landing.place)) := by
  induction links, here, ns using along_induction with
  | nil links here =>
      rw [along_nil] at h
      cases h
      cases hfinal
  | dot links here rest ih =>
      rw [along_dot] at h ⊢
      exact ih h
  | up links here rest ih =>
      rw [along_up] at h ⊢
      exact ih h
  | proper links here name rest hname ihDir ihLink =>
      have hlast (hplace : landing.place = here ++ [name]) (hrest : rest = []) :
          along t follow' links here (name :: rest) =
            if Text.byteLength name > nameLimit then .error .nameTooLong
            else .ok (Landing.ofEntry landing.place (t.get? landing.place)) := by
        rw [along_proper hname, hrest, hplace]
        rw [hplace] at hlink
        cases hget : t.get? (here ++ [name]) with
        | none => simp [Landing.ofEntry]
        | some e =>
            cases e with
            | file mode bytes => simp [Landing.ofEntry]
            | directory => simp [Landing.ofEntry]
            | link target => exact absurd hget (hlink target)
      rw [along_proper hname] at h
      split at h
      · cases h
      · rename_i hshort
        rw [if_neg hshort] at hlast
        split at h
        · split at h
          · rename_i hrest
            cases h
            exact hlast rfl (by simpa using hrest)
          · cases h
        · rename_i hget
          rw [along_proper hname, if_neg hshort, hways _ _ hget rfl]
          exact ihDir h
        · split at h
          · rename_i hrest
            cases h
            exact hlast rfl (by simpa using hrest)
          · cases h
        · rename_i target hget
          rw [along_proper hname, if_neg hshort, hways _ _ hget rfl]
          split at h
          · cases h
            cases hfinal
          · rename_i hgo
            have hgo' : (rest.isEmpty && !follow') = false := by
              cases hrest : rest.isEmpty with
              | false => rfl
              | true =>
                  have hf : follow = true := by simpa [hrest] using hgo
                  simp [hfollow hf]
            simp only [hgo']
            cases links with
            | zero => cases h
            | succ left => exact ihLink left _ rfl h

/-- Following the last name changes nothing where a walk ends at no link. -/
theorem along_true_of_along {landing : Landing}
    (hlink : ∀ p target, landing ≠ .found p (.link target))
    (links : Nat) (here : Place) (ns : List Text)
    (h : along s follow links here ns = .ok landing) :
    along s true links here ns = .ok landing := by
  induction links, here, ns using along_induction with
  | nil links here => simpa using h
  | dot links here rest ih =>
      rw [along_dot] at h ⊢
      exact ih h
  | up links here rest ih =>
      rw [along_up] at h ⊢
      exact ih h
  | proper links here name rest hname ihDir ihLink =>
      rw [along_proper hname] at h ⊢
      split at h
      · cases h
      · rename_i hshort
        rw [if_neg hshort]
        split at h
        · exact h
        · exact ihDir h
        · exact h
        · rename_i target hget
          split at h
          · cases h
            exact absurd rfl (hlink _ target)
          · simp only [Bool.not_true, Bool.and_false, Bool.false_eq_true, if_false]
            cases links with
            | zero => cases h
            | succ left => exact ihLink left _ rfl h

end Agreeing

section LastName

/--
A walk to names behind others is the walk to those, which must end at a directory, and the
walk of the names from there.
-/
theorem along_append (s : Store) (links : Nat) (here : Place) (ns : List Text) :
    (∃ directory left,
      along s true links here ns = .ok (.found directory .directory) ∧
      ∀ follow name rest, along s follow links here (ns ++ name :: rest) =
        along s follow left directory (name :: rest)) ∨
    ((∀ directory, along s true links here ns ≠ .ok (.found directory .directory)) ∧
      ∀ follow name rest, ∃ errno,
        along s follow links here (ns ++ name :: rest) = .error errno) := by
  induction links, here, ns using along_induction with
  | nil links here =>
      exact Or.inl ⟨here, links, along_nil s true links here, fun _ _ _ => rfl⟩
  | dot links here rest ih =>
      simpa only [List.cons_append, along_dot] using ih
  | up links here rest ih =>
      simpa only [List.cons_append, along_up] using ih
  | proper links here name rest hname ihDir ihLink =>
      simp only [List.cons_append, along_proper hname]
      by_cases hlong : Text.byteLength name > nameLimit
      · right
        simp [hlong]
      · simp only [hlong, if_false]
        cases hget : s.get? (here ++ [name]) with
        | none =>
            right
            cases rest <;> simp
        | some e =>
            cases e with
            | file mode bytes =>
                right
                cases rest <;> simp
            | directory => exact ihDir
            | link target =>
                cases links with
                | zero =>
                    right
                    simp [onward]
                | succ left =>
                    simpa [onward] using ihLink left target rfl

/-- A walk that asks for a directory in the end ends at none but a directory. -/
theorem eq_directory_of_along_dot {s : Store} {links : Nat} {here p : Place} {ns : List Text}
    {e : Entry} (h : along s true links here (ns ++ [['.']]) = .ok (.found p e)) :
    e = .directory := by
  rcases along_append s links here ns with ⟨directory, left, -, hall⟩ | ⟨-, hall⟩
  · have hdot : along s true left directory [['.']] = .ok (.found directory .directory) :=
      (along_dot s true left directory []).trans (along_nil ..)
    rw [hall, hdot] at h
    cases h
    rfl
  · obtain ⟨errno, herrno⟩ := hall true ['.'] []
    rw [herrno] at h
    cases h

/-- There is no way on from a vacant place. -/
theorem along_append_of_vacant {p : Place} (links : Nat) (here : Place) (ns : List Text)
    (h : along s false links here ns = .ok (.vacant p)) (follow : Bool) (name : Text)
    (rest : List Text) :
    along s follow links here (ns ++ name :: rest) = .error .noEntry := by
  induction links, here, ns using along_induction with
  | nil links here => simp at h
  | dot links here rest' ih =>
      rw [along_dot] at h
      rw [List.cons_append, along_dot]
      exact ih h
  | up links here rest' ih =>
      rw [along_up] at h
      rw [List.cons_append, along_up]
      exact ih h
  | proper links here first rest' hname ihDir ihLink =>
      rw [along_proper hname] at h
      rw [List.cons_append, along_proper hname]
      split at h
      · cases h
      · rename_i hshort
        rw [if_neg hshort]
        split at h
        · simp
        · exact ihDir h
        · split at h <;> cases h
        · rename_i target hget
          split at h
          · cases h
          · cases links with
            | zero => cases h
            | succ left =>
                simpa [onward] using ihLink left target rfl h

/--
Where there is nothing but directories, a walk of proper names goes straight down, until it
comes to its end, to nothing, or to a name that is too long.
-/
theorem along_below (follow : Bool) {top : Place}
    (hdirs : ∀ r e, top <+: r → s.get? r = some e → e = .directory)
    (links : Nat) {here : Place} (hhere : top <+: here) {ns : List Text}
    (hproper : ∀ name ∈ ns, IsProper name) :
    along s follow links here ns = .ok (.found (here ++ ns) .directory) ∨
      (∃ r, along s follow links here ns = .ok (.vacant r)) ∨
      along s follow links here ns = .error .noEntry ∨
      (along s follow links here ns = .error .nameTooLong ∧
        ∃ name ∈ ns, Text.byteLength name > nameLimit) := by
  induction ns generalizing here with
  | nil => exact Or.inl (by rw [along_nil, List.append_nil])
  | cons name rest ih =>
      rw [along_proper (hproper name (by simp))]
      split
      · rename_i hlong
        exact Or.inr (Or.inr (Or.inr ⟨rfl, name, by simp, hlong⟩))
      · have hnext : top <+: here ++ [name] := hhere.trans (List.prefix_append here [name])
        cases hget : s.get? (here ++ [name]) with
        | none =>
            cases rest with
            | nil => exact Or.inr (Or.inl ⟨_, rfl⟩)
            | cons => exact Or.inr (Or.inr (Or.inl rfl))
        | some e =>
            obtain rfl := hdirs _ e hnext hget
            have ih' := ih hnext fun other hother => hproper other (by simp [hother])
            simpa using ih'.imp_right (Or.imp_right (Or.imp_right
              (And.imp_right fun ⟨other, hother, hlong⟩ => Or.inr ⟨other, hother, hlong⟩)))

/--
The walk of one proper name ends at the name in the directory, if the name may be so long
and no link there is followed.
-/
theorem along_singleton {name : Text} (h : IsProper name) (s : Store) (links : Nat)
    (here : Place) (hlink : follow = true → ∀ target,
      s.get? (here ++ [name]) ≠ some (.link target)) :
    along s follow links here [name] =
      if Text.byteLength name > nameLimit then .error .nameTooLong
      else .ok (Landing.ofEntry (here ++ [name]) (s.get? (here ++ [name]))) := by
  rw [along_proper h]
  split
  · rfl
  · cases hget : s.get? (here ++ [name]) with
    | none => rfl
    | some e =>
        cases e with
        | file mode bytes => simp [Landing.ofEntry]
        | directory => simp [Landing.ofEntry]
        | link target =>
            have hstop : follow = false := by
              cases follow with
              | false => rfl
              | true => exact absurd hget (hlink rfl target)
            simp [Landing.ofEntry, hstop]

/-- A walk to a proper name that is not followed ends at that name in some directory. -/
theorem place_of_along_append_singleton {name : Text} (h : IsProper name) {landing : Landing}
    (links : Nat) (here : Place) (ns : List Text)
    (hwalk : along s false links here (ns ++ [name]) = .ok landing) :
    ∃ directory, landing.place = directory ++ [name] := by
  rcases along_append s links here ns with ⟨directory, left, -, hlook⟩ | ⟨-, herr⟩
  · rw [hlook, along_singleton h s left directory (by simp)] at hwalk
    split at hwalk
    · cases hwalk
    · cases hwalk
      exact ⟨directory, by simp⟩
  · obtain ⟨errno, herr⟩ := herr false name []
    rw [herr] at hwalk
    cases hwalk

end LastName

section OwnWay

/--
If a walk ends at a link, then either the walk without the link ends at its vacant place, or
the walk passes through the link before it ends there, so that it is refused once a file is
in the link's stead.
-/
theorem along_without_link {p : Place} {target : Text}
    (hways : ∀ q e, s.get? q = some e → e.isFile = false → q ≠ p → t.get? q = some e)
    {mode : Nat} {bytes : Bytes} (hfile : t.get? p = some (.file mode bytes))
    (links : Nat) (here : Place) (ns : List Text)
    (h : along s false links here ns = .ok (.found p (.link target))) :
    along (s.erase p) false links here ns = .ok (.vacant p) ∨
      (along (s.erase p) false links here ns ≠ .ok (.vacant p) ∧
        ∃ errno, along t true links here ns = .error errno) := by
  induction links, here, ns using along_induction with
  | nil links here => simp at h
  | dot links here rest ih =>
      simp only [along_dot] at h ⊢
      exact ih h
  | up links here rest ih =>
      simp only [along_up] at h ⊢
      exact ih h
  | proper links here name rest hname ihDir ihLink =>
      simp only [along_proper hname] at h ⊢
      by_cases hlong : Text.byteLength name > nameLimit
      · simp [hlong] at h
      · simp only [hlong, if_false] at h ⊢
        by_cases hp : here ++ [name] = p
        · -- the link itself: the end of the walk, or a part of its way
          rw [hp, Store.get?_erase_self, hfile]
          cases rest <;> simp
        · rw [Store.get?_erase_of_ne s hp]
          cases hget : s.get? (here ++ [name]) with
          | none =>
              rw [hget] at h
              cases rest <;> simp at h
          | some e =>
              rw [hget] at h
              cases e with
              | file mode bytes =>
                  cases rest <;> simp at h
              | directory =>
                  rw [hways _ _ hget rfl hp]
                  exact ihDir h
              | link other =>
                  rw [hways _ _ hget rfl hp]
                  have hgo : (rest.isEmpty && !false) = false := by
                    cases rest with
                    | nil =>
                        simp only [List.isEmpty_nil, Bool.not_false, Bool.and_self,
                          if_true, Except.ok.injEq, Landing.found.injEq] at h
                        exact absurd h.1 hp
                    | cons => rfl
                  simp only [hgo, Bool.not_true, Bool.and_false, Bool.false_eq_true,
                    if_false] at h ⊢
                  cases links with
                  | zero => cases h
                  | succ left => exact ihLink left other rfl h

end OwnWay

end Walk

namespace Store

variable {s t : Store} {base : Place} {follow : Bool} {path : Text} {p : Place}

section Finding

/-- A path that leads anywhere in one store is decided by the walk of its names in every one. -/
theorem find_eq_along {landing : Landing} (h : s.find base follow path = .ok landing)
    (t : Store) (follow' : Bool) :
    t.find base follow' path =
      Walk.along t follow' Walk.linkLimit (Walk.start base path) (Walk.names path) := by
  unfold find at h ⊢
  split at h
  · cases h
  · rename_i hsome
    rw [if_neg hsome]
    split at h
    · cases h
    · rename_i hshort
      rw [if_neg hshort]

theorem get?_of_find_vacant (h : s.find base follow path = .ok (.vacant p)) :
    s.get? p = none := by
  have hwalk := find_eq_along h
  rw [hwalk] at h
  exact Walk.get?_of_along_vacant _ _ _ h

theorem ne_nil_of_find_vacant (h : s.find base follow path = .ok (.vacant p)) :
    p ≠ [] := by
  have hwalk := find_eq_along h
  rw [hwalk] at h
  exact Walk.ne_nil_of_along_vacant _ _ _ h

theorem get?_of_find_found {e : Entry} (he : e ≠ .directory)
    (h : s.find base follow path = .ok (.found p e)) :
    s.get? p = some e := by
  have hwalk := find_eq_along h
  rw [hwalk] at h
  exact Walk.get?_of_along_found he _ _ _ h

theorem find_found_of_keeps {e : Entry} (hways : t.KeepsWays s)
    (hend : ∀ f, s.get? p = some f → t.get? p = some f)
    (h : s.find base follow path = .ok (.found p e)) :
    t.find base follow path = .ok (.found p e) := by
  have hwalk := find_eq_along h
  rw [hwalk] at h ⊢
  exact Walk.along_found_of_keeps hways hend _ _ _ h

theorem find_of_find_final {follow' : Bool} {landing : Landing} (hways : t.KeepsWays s)
    (hfollow : follow = true → follow' = true) (hfinal : landing.isFinal = true)
    (hlink : ∀ target, t.get? landing.place ≠ some (.link target))
    (h : s.find base follow path = .ok landing) :
    t.find base follow' path =
      .ok (Landing.ofEntry landing.place (t.get? landing.place)) := by
  have hwalk := find_eq_along h
  rw [hwalk] at h ⊢
  exact Walk.along_of_along_final hways hfollow hfinal hlink _ _ _ h

theorem find_of_find_vacant {follow' : Bool} (hways : t.KeepsWays s)
    (hfollow : follow = true → follow' = true)
    (hlink : ∀ target, t.get? p ≠ some (.link target))
    (h : s.find base follow path = .ok (.vacant p)) :
    t.find base follow' path = .ok (Landing.ofEntry p (t.get? p)) :=
  find_of_find_final hways hfollow (rfl : (Landing.vacant p).isFinal = true) hlink h

theorem find_true_of_find {landing : Landing}
    (hlink : ∀ p target, landing ≠ .found p (.link target))
    (h : s.find base follow path = .ok landing) :
    s.find base true path = .ok landing := by
  have hwalk := find_eq_along h
  rw [hwalk] at h ⊢
  exact Walk.along_true_of_along hlink _ _ _ h

end Finding

end Store
end NoteTemplates
