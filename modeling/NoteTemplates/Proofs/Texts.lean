import NoteTemplates.Proofs.Paths
import NoteTemplates.Text.Basic

/-!
# Texts: order, beginnings and parts

Texts compared by code point are in a total order, so there is one way to put different names
in order. A text begins with another if it is that one with more behind it; its parts joined
again are the text; and no text has more characters than bytes.
-/

namespace NoteTemplates
namespace Text

section Order

theorem le_cons {c d : Char} {s t : Text} :
    le (c :: s) (d :: t) = true ↔ c.toNat < d.toNat ∨ c = d ∧ le s t = true := by
  simp [le]

theorem le_trans {s t u : Text} (hst : le s t = true) (htu : le t u = true) :
    le s u = true := by
  induction s generalizing t u with
  | nil => simp [le]
  | cons c s ih =>
      cases t with
      | nil => simp [le] at hst
      | cons d t =>
          cases u with
          | nil => simp [le] at htu
          | cons e u =>
              rw [le_cons] at hst htu ⊢
              rcases hst with hcd | ⟨rfl, hst⟩
              · rcases htu with hde | ⟨rfl, -⟩
                · exact Or.inl (Nat.lt_trans hcd hde)
                · exact Or.inl hcd
              · exact htu.imp_right fun ⟨hce, htu⟩ => ⟨hce, ih hst htu⟩

theorem le_total (s t : Text) : le s t = true ∨ le t s = true := by
  induction s generalizing t with
  | nil => simp [le]
  | cons c s ih =>
      cases t with
      | nil => simp [le]
      | cons d t =>
          rw [le_cons, le_cons]
          rcases Nat.lt_trichotomy c.toNat d.toNat with hlt | heq | hgt
          · exact Or.inl (Or.inl hlt)
          · obtain rfl : c = d := Char.toNat_inj.mp heq
            exact (ih t).imp (fun h => Or.inr ⟨rfl, h⟩) fun h => Or.inr ⟨rfl, h⟩
          · exact Or.inr (Or.inl hgt)

theorem le_antisymm {s t : Text} (hst : le s t = true) (hts : le t s = true) : s = t := by
  induction s generalizing t with
  | nil =>
      cases t with
      | nil => rfl
      | cons d t => simp [le] at hts
  | cons c s ih =>
      cases t with
      | nil => simp [le] at hst
      | cons d t =>
          rw [le_cons] at hst hts
          rcases hst with hcd | ⟨rfl, hst⟩
          · rcases hts with hdc | ⟨rfl, -⟩ <;> omega
          · rcases hts with hcc | ⟨-, hts⟩
            · omega
            · rw [ih hst hts]

/-- Texts in order; those that are the same keep their order. -/
theorem pairwise_mergeSort_le (names : List Text) :
    (names.mergeSort le).Pairwise fun s t => le s t = true :=
  @List.pairwise_mergeSort Text le (fun _ _ _ => le_trans)
    (fun s t => (Bool.or_eq_true _ _).mpr (le_total s t)) names

/-- Lists in order with the same members are the same. -/
theorem eq_of_perm_of_pairwise_le {names others : List Text} (hperm : names.Perm others)
    (h : names.Pairwise fun s t => le s t = true)
    (h' : others.Pairwise fun s t => le s t = true) : names = others :=
  hperm.eq_of_pairwise (fun _ _ _ _ => le_antisymm) h h'

end Order

section Beginnings

variable {p s rest : Text}

theorem afterPrefix?_eq_some : afterPrefix? p s = some rest ↔ s = p ++ rest := by
  induction p generalizing s with
  | nil => simp [afterPrefix?]
  | cons c p ih =>
      cases s with
      | nil => simp [afterPrefix?]
      | cons d s =>
          rw [afterPrefix?]
          split
          · rename_i heq
            rw [ih, heq]
            simp
          · rename_i hne
            constructor
            · intro h
              cases h
            · intro h
              exact absurd (List.cons.inj h).1.symm hne

theorem startsWith_iff : startsWith p s = true ↔ p <+: s := by
  rw [startsWith, Option.isSome_iff_exists]
  constructor
  · rintro ⟨rest, h⟩
    exact ⟨rest, (afterPrefix?_eq_some.mp h).symm⟩
  · rintro ⟨rest, rfl⟩
    exact ⟨rest, afterPrefix?_eq_some.mpr rfl⟩

theorem endsWith_iff : endsWith p s = true ↔ p <:+ s := by
  rw [endsWith, startsWith_iff, List.reverse_prefix]

theorem dropPrefix_append (p s : Text) : dropPrefix p (p ++ s) = s := by
  rw [dropPrefix, afterPrefix?_eq_some.mpr rfl, Option.getD_some]

theorem dropPrefix_of_not_begins (h : ¬ p <+: s) : dropPrefix p s = s := by
  rw [dropPrefix]
  cases hafter : afterPrefix? p s with
  | none => rfl
  | some rest => exact absurd ⟨rest, (afterPrefix?_eq_some.mp hafter).symm⟩ h

theorem dropSuffix_append (p s : Text) : dropSuffix p (s ++ p) = s := by
  rw [dropSuffix, List.reverse_append, dropPrefix_append, List.reverse_reverse]

theorem dropSuffix_of_not_suffix (h : ¬ p <:+ s) : dropSuffix p s = s := by
  rw [dropSuffix, dropPrefix_of_not_begins fun hp => h (List.reverse_prefix.mp hp),
    List.reverse_reverse]

/-- A beginning that does not hold a character ends before the character. -/
theorem prefix_of_prefix_append_cons {c : Char} (hc : c ∉ p) (h : p <+: s ++ c :: rest) :
    p <+: s := by
  have hmore : s ++ [c] <+: s ++ c :: rest := ⟨rest, by simp⟩
  rcases List.prefix_or_prefix_of_prefix h hmore with hp | hp
  · rcases List.prefix_concat_iff.mp hp with rfl | hp
    · exact absurd (by simp) hc
    · exact hp
  · exact absurd (hp.mem (by simp)) hc

end Beginnings

section Parts

theorem splitOn_ne_nil (sep : Char) (s : Text) : splitOn sep s ≠ [] := by
  cases s with
  | nil => simp [splitOn]
  | cons c s =>
      rw [splitOn]
      split
      · simp
      · split <;> simp

theorem splitOn_append_sep (sep : Char) (s t : Text) :
    splitOn sep (s ++ sep :: t) = splitOn sep s ++ splitOn sep t := by
  induction s with
  | nil => simp [splitOn]
  | cons c s ih =>
      rw [List.cons_append, splitOn, splitOn]
      split
      · rw [ih, List.cons_append]
      · rw [ih]
        cases hs : splitOn sep s with
        | nil => exact absurd hs (splitOn_ne_nil sep s)
        | cons part parts => rfl

/-- Two ways to part a text at a character that the one beginning does not hold. -/
theorem append_cons_cases {sep : Char} {s t u v : Text} (hs : sep ∉ s)
    (h : u ++ sep :: v = s ++ sep :: t) :
    s = u ∧ t = v ∨ ∃ between, u = s ++ sep :: between ∧ t = between ++ sep :: v := by
  induction s generalizing u with
  | nil =>
      cases u with
      | nil => exact Or.inl ⟨rfl, (List.cons.inj h).2.symm⟩
      | cons d u =>
          obtain ⟨rfl, hrest⟩ := List.cons.inj h
          exact Or.inr ⟨u, rfl, hrest.symm⟩
  | cons c s ih =>
      rw [List.mem_cons, not_or] at hs
      cases u with
      | nil => exact absurd (List.cons.inj h).1 hs.1
      | cons d u =>
          obtain ⟨rfl, hrest⟩ := List.cons.inj h
          rcases ih hs.2 hrest with ⟨rfl, rfl⟩ | ⟨between, rfl, rfl⟩
          · exact Or.inl ⟨rfl, rfl⟩
          · exact Or.inr ⟨between, rfl, rfl⟩

/-- There is one way to part a text at the first of the characters. -/
theorem append_cons_inj {sep : Char} {s t u v : Text} (hs : sep ∉ s) (hu : sep ∉ u)
    (h : u ++ sep :: v = s ++ sep :: t) : s = u ∧ t = v := by
  rcases append_cons_cases hs h with hsame | ⟨between, rfl, -⟩
  · exact hsame
  · exact absurd (by simp) hu

/-- The parts of a text joined again are the text. -/
theorem joinWith_splitOn (sep : Char) (s : Text) : joinWith [sep] (splitOn sep s) = s := by
  induction s with
  | nil => rfl
  | cons c s ih =>
      have hne := splitOn_ne_nil sep s
      rw [splitOn]
      split
      · rename_i hc
        rw [joinWith_cons hne, ih, hc]
        rfl
      · cases hs : splitOn sep s with
        | nil => exact absurd hs hne
        | cons part parts =>
            rw [hs] at ih
            cases parts with
            | nil => exact congrArg (c :: ·) ih
            | cons next parts => exact congrArg (c :: ·) ih

theorem infix_joinWith {sep part : Text} {parts : List Text} (h : part ∈ parts) :
    part <:+: joinWith sep parts := by
  induction parts with
  | nil => cases h
  | cons first parts ih =>
      by_cases hparts : parts = []
      · subst hparts
        rw [List.mem_singleton.mp h]
        exact List.infix_rfl
      · rw [joinWith_cons hparts]
        rcases List.mem_cons.mp h with rfl | h
        · exact (List.prefix_append _ _).isInfix.trans (List.prefix_append _ _).isInfix
        · exact (ih h).trans (List.suffix_append _ _).isInfix

/-- The parts of a text stand in it. -/
theorem infix_of_mem_splitOn {sep : Char} {s part : Text} (h : part ∈ splitOn sep s) :
    part <:+: s := by
  have hinfix : part <:+: joinWith [sep] (splitOn sep s) := infix_joinWith h
  rwa [joinWith_splitOn] at hinfix

theorem notMem_of_mem_splitOn {sep : Char} {s part : Text} (h : part ∈ splitOn sep s) :
    sep ∉ part := by
  induction s generalizing part with
  | nil =>
      rw [splitOn, List.mem_singleton] at h
      simp [h]
  | cons c s ih =>
      rw [splitOn] at h
      split at h
      · rcases List.mem_cons.mp h with rfl | hmem
        · simp
        · exact ih hmem
      · rename_i hc
        split at h
        · rw [List.mem_singleton] at h
          rw [h, List.mem_singleton]
          exact fun hsep => hc hsep.symm
        · rename_i first rest hsplit
          rw [hsplit] at ih
          rcases List.mem_cons.mp h with rfl | hmem
          · rw [List.mem_cons, not_or]
            exact ⟨fun hsep => hc hsep.symm, ih (by simp)⟩
          · exact ih (by simp [hmem])

theorem splitFirst?_eq_none {sep : Char} {s : Text} (h : sep ∉ s) : splitFirst? sep s = none := by
  induction s with
  | nil => rfl
  | cons c s ih =>
      obtain ⟨hc, hs⟩ := not_or.mp (mt List.mem_cons.mpr h)
      rw [splitFirst?, if_neg (Ne.symm hc), ih hs]
      rfl

theorem length_le_byteLength (s : Text) : s.length ≤ byteLength s := by
  induction s with
  | nil => simp
  | cons c s ih =>
      have hc := c.utf8Size_pos
      show s.length + 1 ≤ c.utf8Size + byteLength s
      omega

end Parts

end Text
end NoteTemplates
