import NoteTemplates.Proofs.Walks

/-!
# What a walk looks at

A walk that follows links looks at the entry of every proper name on its way. It ends alike
in every store that has the same entries at the places it looks at, so an entry that no walk
looks at may be put in or taken out. A walk that comes to a directory has looked at no vacant
place.
-/

namespace NoteTemplates
namespace Walk

/-- A walk that follows links looks at a place. -/
inductive LooksAt (s : Store) (q : Place) : Nat → Place → List Text → Prop
  | here {links : Nat} {here : Place} {name : Text} {rest : List Text}
      (proper : IsProper name) (reached : here ++ [name] = q) :
      LooksAt s q links here (name :: rest)
  | dot {links : Nat} {here : Place} {rest : List Text}
      (later : LooksAt s q links here rest) : LooksAt s q links here ("." :: rest)
  | up {links : Nat} {here : Place} {rest : List Text}
      (later : LooksAt s q links here.dropLast rest) : LooksAt s q links here (".." :: rest)
  | down {links : Nat} {here : Place} {name : Text} {rest : List Text}
      (proper : IsProper name) (directory : s.get? (here ++ [name]) = some .directory)
      (later : LooksAt s q links (here ++ [name]) rest) : LooksAt s q links here (name :: rest)
  | onward {links : Nat} {here : Place} {name target : Text} {rest : List Text}
      (proper : IsProper name) (link : s.get? (here ++ [name]) = some (.link target))
      (later : LooksAt s q links (start here target) (names target ++ rest)) :
      LooksAt s q (links + 1) here (name :: rest)

section LooksAt

variable {s t : Store} {q : Place} {links : Nat} {here : Place} {ns : List Text}

/-- A walk that may follow more links looks at no less. -/
theorem LooksAt.mono (h : LooksAt s q links here ns) {more : Nat} (hle : links ≤ more) :
    LooksAt s q more here ns := by
  induction h generalizing more with
  | here proper reached => exact .here proper reached
  | dot _ ih => exact .dot (ih hle)
  | up _ ih => exact .up (ih hle)
  | down proper directory _ ih => exact .down proper directory (ih hle)
  | onward proper link _ ih =>
      obtain ⟨more, rfl⟩ : ∃ n, more = n + 1 := ⟨more - 1, by omega⟩
      exact .onward proper link (ih (by omega))

/-- A walk ends alike in stores that have the same entries at all places it looks at. -/
theorem along_congr (links : Nat) (here : Place) (ns : List Text)
    (h : ∀ q, LooksAt s q links here ns → s.get? q = t.get? q) :
    along s true links here ns = along t true links here ns := by
  induction links, here, ns using along_induction with
  | nil links here => rw [along_nil, along_nil]
  | dot links here rest ih =>
      rw [along_dot, along_dot]
      exact ih fun q hq => h q (.dot hq)
  | up links here rest ih =>
      rw [along_up, along_up]
      exact ih fun q hq => h q (.up hq)
  | proper links here name rest hname ihDir ihLink =>
      rw [along_proper hname, along_proper hname, ← h _ (.here hname rfl)]
      split
      · rfl
      · cases hget : s.get? (here ++ [name]) with
        | none => rfl
        | some e =>
            cases e with
            | file mode bytes => rfl
            | directory => exact ihDir fun q hq => h q (.down hname hget hq)
            | link target =>
                cases links with
                | zero => simp [onward]
                | succ left =>
                    simpa [onward] using
                      ihLink left target rfl fun q hq => h q (.onward hname hget hq)

/-- A walk that comes to a directory has looked at entries only. -/
theorem get?_ne_none_of_looksAt {p : Place} (links : Nat) (here : Place) (ns : List Text)
    (h : along s true links here ns = .ok (.found p .directory))
    (hq : LooksAt s q links here ns) : s.get? q ≠ none := by
  induction hq with
  | @here links here name rest proper reached =>
      rw [along_proper proper, reached] at h
      intro hnone
      rw [hnone] at h
      split at h
      · cases h
      · dsimp only at h
        split at h <;> cases h
  | dot _ ih => exact ih (by rwa [along_dot] at h)
  | up _ ih => exact ih (by rwa [along_up] at h)
  | down proper directory _ ih =>
      rw [along_proper proper, directory] at h
      split at h
      · cases h
      · exact ih h
  | onward proper link _ ih =>
      rw [along_proper proper, link] at h
      split at h
      · cases h
      · exact ih (by simpa [Walk.onward] using h)

/-- A walk behind a directory looks at what the walk to the directory or the rest of it does. -/
theorem LooksAt.of_append {p : Place} {rest : List Text} (links : Nat) (here : Place)
    (ns : List Text) (h : along s true links here ns = .ok (.found p .directory))
    (hq : LooksAt s q links here (ns ++ rest)) :
    LooksAt s q links here ns ∨ ∃ left ≤ links, LooksAt s q left p rest := by
  induction links, here, ns using along_induction with
  | nil links here =>
      rw [along_nil] at h
      cases h
      exact Or.inr ⟨links, Nat.le_refl _, hq⟩
  | dot links here rest' ih =>
      rw [along_dot] at h
      cases hq with
      | here proper => exact absurd rfl proper.1
      | dot later => exact (ih h later).imp_left .dot
      | down proper => exact absurd rfl proper.1
      | onward proper => exact absurd rfl proper.1
  | up links here rest' ih =>
      rw [along_up] at h
      cases hq with
      | here proper => exact absurd rfl proper.2
      | up later => exact (ih h later).imp_left .up
      | down proper => exact absurd rfl proper.2
      | onward proper => exact absurd rfl proper.2
  | proper links here name rest' hname ihDir ihLink =>
      rw [along_proper hname] at h
      rw [List.cons_append] at hq
      split at h
      · cases h
      · cases hq with
        | here proper reached => exact Or.inl (.here proper reached)
        | dot later => exact absurd rfl hname.1
        | up later => exact absurd rfl hname.2
        | down proper directory later =>
            rw [directory] at h
            exact (ihDir h later).imp_left (.down proper directory)
        | @onward left _ _ target _ proper link later =>
            rw [link] at h
            have h' : along s true left (start here target) (names target ++ rest') =
                .ok (.found p .directory) := by
              simpa [Walk.onward] using h
            rw [← List.append_assoc] at later
            refine (ihLink left target rfl h' later).imp (.onward proper link) ?_
            rintro ⟨left', hle, hrest⟩
            exact ⟨left', by omega, hrest⟩

end LooksAt

end Walk
end NoteTemplates
