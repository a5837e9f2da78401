import NoteTemplates.Proofs.Texts
import NoteTemplates.Template.Rendering

/-!
# Replacing tokens

Replacing a pattern in a text is replacing it on both sides of a character that the pattern
does not hold. The tokens of variables and of built-in values hold no angle bracket, and a
tag holds no curly one. So a text with a prompt in it is replaced piece by piece: what
stands before the prompt, the question, and what stands behind it.
-/

namespace NoteTemplates
namespace Text

section Cutting

variable {α : Type} {find : Text → Option (α × Nat)} {a : α} {c : Char} {s : Text} {more : Nat}

theorem cut_cons_of_none (h : find (c :: s) = none) :
    cut find 0 (c :: s) = .plain c :: cut find 0 s := by
  rw [cut, h]

theorem cut_cons_of_some (h : find (c :: s) = some (a, more)) :
    cut find 0 (c :: s) = .found a :: cut find more s := by
  rw [cut, h]

/-- Characters that a match still covers are passed over. -/
theorem cut_eq_drop (find : Text → Option (α × Nat)) (covered : Nat) (s : Text) :
    cut find covered s = cut find 0 (s.drop covered) := by
  induction covered generalizing s with
  | zero => rfl
  | succ covered ih =>
      cases s with
      | nil => simp [cut]
      | cons c s => rw [cut, ih, List.drop_succ_cons]

/-- A match at the beginning of a text is the first piece. -/
theorem cut_append_of_some {m : Text} (hm : m ≠ [])
    (h : find (m ++ s) = some (a, m.length - 1)) :
    cut find 0 (m ++ s) = .found a :: cut find 0 s := by
  cases m with
  | nil => exact absurd rfl hm
  | cons c m =>
      rw [List.cons_append] at h ⊢
      rw [cut_cons_of_some h, cut_eq_drop]
      simp

/-- Induction along the matches that are found in a text and the characters between. -/
theorem cut_induction {IsMatch IsFree : Text → Prop}
    (hfind : ∀ s, IsFree s ∨ ∃ m rest, s = m ++ rest ∧ IsMatch m)
    (hmatch : ∀ m, IsMatch m → m ≠ []) {motive : Text → Prop} (nil : motive [])
    (found : ∀ m rest, IsMatch m → motive rest → motive (m ++ rest))
    (plain : ∀ c s, IsFree (c :: s) → motive s → motive (c :: s)) (s : Text) : motive s := by
  induction hlength : s.length using Nat.strongRecOn generalizing s with
  | ind n ih =>
      cases s with
      | nil => exact nil
      | cons c s =>
          subst hlength
          rcases hfind (c :: s) with hfree | ⟨m, rest, hrest, hm⟩
          · exact plain c s hfree (ih s.length (by simp) s rfl)
          · have hlength := congrArg List.length hrest
            have hpos := List.length_pos_iff.mpr (hmatch m hm)
            rw [List.length_append] at hlength
            rw [hrest]
            exact found m rest hm (ih rest.length (by omega) rest rfl)

end Cutting

section Replacing

variable {p : Text} {value s : Text} {c : Char}

theorem replaceAll_nil (hp : p ≠ []) (value : Text) : replaceAll p value [] = [] := by
  cases p with
  | nil => exact absurd rfl hp
  | cons d p => rfl

/-- An occurrence at the beginning of a text is replaced. -/
theorem replaceAll_append (hp : p ≠ []) (value s : Text) :
    replaceAll p value (p ++ s) = value ++ replaceAll p value s := by
  cases p with
  | nil => exact absurd rfl hp
  | cons d p =>
      simp only [replaceAll]
      rw [cut_append_of_some (m := d :: p) (a := ()) hp]
      · rfl
      · rw [if_pos (startsWith_iff.mpr (List.prefix_append _ _))]
        rfl

/-- A character at which the pattern does not begin is kept. -/
theorem replaceAll_cons (hp : p ≠ []) (h : ¬ p <+: c :: s) (value : Text) :
    replaceAll p value (c :: s) = c :: replaceAll p value s := by
  cases p with
  | nil => exact absurd rfl hp
  | cons d p =>
      simp only [replaceAll]
      rw [cut_cons_of_none (if_neg fun hstarts => h (startsWith_iff.mp hstarts))]
      rfl

/-- Induction along a text in which a pattern is replaced. -/
theorem replace_induction (hp : p ≠ []) {motive : Text → Prop} (nil : motive [])
    (occurs : ∀ s, motive s → motive (p ++ s))
    (plain : ∀ c s, ¬ p <+: c :: s → motive s → motive (c :: s)) (s : Text) : motive s := by
  have hfind (s : Text) : ¬ p <+: s ∨ ∃ m rest, s = m ++ rest ∧ m = p := by
    by_cases hbegins : p <+: s
    · obtain ⟨rest, hrest⟩ := hbegins
      exact Or.inr ⟨p, rest, hrest.symm, rfl⟩
    · exact Or.inl hbegins
  exact cut_induction hfind (fun _ h => h ▸ hp) nil (fun _ rest h => h ▸ occurs rest) plain s

/-- A character that the pattern does not hold parts a text in two that are replaced apart. -/
theorem replaceAll_append_cons (hp : p ≠ []) (hc : c ∉ p) (value s t : Text) :
    replaceAll p value (s ++ c :: t) = replaceAll p value s ++ c :: replaceAll p value t := by
  induction s using replace_induction hp with
  | nil =>
      have hno : ¬ p <+: c :: t := by
        intro h
        have hnil := prefix_of_prefix_append_cons (s := []) hc h
        exact hp (List.prefix_nil.mp hnil)
      rw [List.nil_append, replaceAll_cons hp hno, replaceAll_nil hp, List.nil_append]
  | occurs s ih =>
      rw [List.append_assoc, replaceAll_append hp, ih, replaceAll_append hp, List.append_assoc]
  | plain d s hno ih =>
      have hno' : ¬ p <+: d :: (s ++ c :: t) :=
        fun h => hno (prefix_of_prefix_append_cons (s := d :: s) hc h)
      rw [List.cons_append, replaceAll_cons hp hno', ih, replaceAll_cons hp hno, List.cons_append]

/-- A text that lacks a character of the pattern stays. -/
theorem replaceAll_of_notMem (hc : c ∈ p) (hs : c ∉ s) (value : Text) :
    replaceAll p value s = s := by
  have hp : p ≠ [] := List.ne_nil_of_mem hc
  induction s with
  | nil => exact replaceAll_nil hp value
  | cons d s ih =>
      have hno : ¬ p <+: d :: s := fun h => hs (h.mem hc)
      rw [replaceAll_cons hp hno, ih fun hmem => hs (List.mem_cons_of_mem d hmem)]

/-- A character that is neither in a text nor in what is put in does not come up. -/
theorem notMem_replaceAll (hp : p ≠ []) (hvalue : c ∉ value) (hs : c ∉ s) :
    c ∉ replaceAll p value s := by
  induction s using replace_induction hp with
  | nil => rwa [replaceAll_nil hp]
  | occurs s ih =>
      rw [replaceAll_append hp, List.mem_append, not_or]
      exact ⟨hvalue, ih fun hmem => hs (List.mem_append_right p hmem)⟩
  | plain d s hno ih =>
      rw [replaceAll_cons hp hno, List.mem_cons, not_or]
      rw [List.mem_cons, not_or] at hs
      exact ⟨hs.1, ih hs.2⟩

end Replacing

end Text

namespace BuiltIns

/-- The built-in values are those of one moment, if the directory of the notes can be told. -/
theorem resolve_eq_ok {environment : Environment} {directory base : Path} {now : Moment}
    {builtIns : Bindings} :
    resolve environment directory base now = .ok builtIns ↔
      ∃ expanded, base.expandUser environment = .ok expanded ∧
        ofMoment (expanded.absolute directory) now = builtIns := by
  rw [resolve]
  cases base.expandUser environment with
  | error f => simp [Except.map]
  | ok expanded => simp [Except.map]

end BuiltIns

namespace Template

/-- What every token is like: it begins with a curly bracket and holds no angle bracket. -/
def IsToken (p : Text) : Prop :=
  p.head? = some '\x7b' ∧ '<' ∉ p ∧ '>' ∉ p

theorem IsToken.curly_mem {p : Text} (h : IsToken p) : '\x7b' ∈ p :=
  List.mem_of_head? h.1

theorem IsToken.ne_nil {p : Text} (h : IsToken p) : p ≠ [] :=
  List.ne_nil_of_mem h.curly_mem

theorem IsToken.not_begins {p : Text} (h : IsToken p) {c : Char} (hc : c ≠ '\x7b') (s : Text) :
    ¬ p <+: c :: s := by
  intro hbegins
  have hhead := h.1
  cases p with
  | nil => cases hhead
  | cons d p =>
      obtain rfl : d = '\x7b' := by simpa using hhead
      exact hc (List.cons_prefix_cons.mp hbegins).1.symm

/-- The token of a name of letters, digits and low lines. -/
theorem isToken_token {name : Text} (h : ∀ c ∈ name, Variable.isNameChar c = true) :
    IsToken (Variable.token name) := by
  have hmem (c : Char) (hc : Variable.isNameChar c = false) : c ∉ name := by
    intro hmem
    rw [h c hmem] at hc
    cases hc
  have hopen : '<' ∉ name := hmem '<' (by decide)
  have hclose : '>' ∉ name := hmem '>' (by decide)
  refine ⟨?_, ?_, ?_⟩
  · rfl
  · simpa [Variable.token] using hopen
  · simpa [Variable.token] using hclose

/-- The built-in tokens are tokens of names. -/
theorem exists_token_eq_of_mem_ofMoment {base : Path} {now : Moment} {binding : Text × Text}
    (h : binding ∈ BuiltIns.ofMoment base now) :
    ∃ name, (∀ c ∈ name, Variable.isNameChar c = true) ∧ Variable.token name = binding.1 := by
  have htoken : binding.1 ∈ [BuiltIns.dateToken, BuiltIns.dateTimeToken, BuiltIns.baseToken,
      BuiltIns.weekdayToken, BuiltIns.timeToken] := List.mem_map_of_mem h
  simp only [List.mem_cons, List.not_mem_nil, or_false] at htoken
  rcases htoken with htoken | htoken | htoken | htoken | htoken <;> rw [htoken]
  · exact ⟨"date", List.all_eq_true.mp (by decide), rfl⟩
  · exact ⟨"datetime", List.all_eq_true.mp (by decide), rfl⟩
  · exact ⟨"base_dir", List.all_eq_true.mp (by decide), rfl⟩
  · exact ⟨"weekday", List.all_eq_true.mp (by decide), rfl⟩
  · exact ⟨"time", List.all_eq_true.mp (by decide), rfl⟩

theorem isToken_of_mem_ofMoment {base : Path} {now : Moment} {binding : Text × Text}
    (h : binding ∈ BuiltIns.ofMoment base now) : IsToken binding.1 := by
  obtain ⟨name, hname, htoken⟩ := exists_token_eq_of_mem_ofMoment h
  rw [← htoken]
  exact isToken_token hname

section Tokens

variable {values builtIns : Bindings}

/-- Names and values of which the names are tokens. -/
def AreTokens (values : Bindings) : Prop :=
  ∀ binding ∈ values, IsToken binding.1

theorem replaceTokens_append_cons (h : AreTokens values) {c : Char}
    (hc : ∀ p, IsToken p → c ∉ p) (s t : Text) :
    replaceTokens (s ++ c :: t) values = replaceTokens s values ++ c :: replaceTokens t values := by
  induction values generalizing s t with
  | nil => rfl
  | cons binding values ih =>
      have hfirst := h binding List.mem_cons_self
      have hrest : AreTokens values := fun b hb => h b (List.mem_cons_of_mem _ hb)
      simp only [replaceTokens, List.foldl_cons] at ih ⊢
      rw [Text.replaceAll_append_cons hfirst.ne_nil (hc _ hfirst), ih hrest]

theorem replaceTokens_of_notMem (h : AreTokens values) {s : Text} (hs : '\x7b' ∉ s) :
    replaceTokens s values = s := by
  induction values with
  | nil => rfl
  | cons binding values ih =>
      have hfirst := h binding List.mem_cons_self
      have hrest : AreTokens values := fun b hb => h b (List.mem_cons_of_mem _ hb)
      simp only [replaceTokens, List.foldl_cons] at ih ⊢
      rw [Text.replaceAll_of_notMem hfirst.curly_mem hs, ih hrest]

theorem notMem_replaceTokens (h : AreTokens values) {c : Char} {s : Text}
    (hvalues : ∀ binding ∈ values, c ∉ binding.2) (hs : c ∉ s) :
    c ∉ replaceTokens s values := by
  induction values generalizing s with
  | nil => exact hs
  | cons binding values ih =>
      have hfirst := h binding List.mem_cons_self
      have hrest : AreTokens values := fun b hb => h b (List.mem_cons_of_mem _ hb)
      refine ih hrest (fun b hb => hvalues b (List.mem_cons_of_mem _ hb)) ?_
      exact Text.notMem_replaceAll hfirst.ne_nil (hvalues binding List.mem_cons_self) hs

end Tokens

end Template
end NoteTemplates
