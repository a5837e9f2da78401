import NoteTemplates.Editor.Words

/-!
# How commands are spelled

A command is spelled by parts: gaps between its words, characters that stand for themselves,
escaped characters, and what stands between two quotes. Its words are the runs of parts between
the gaps. A text that spells no command leaves something open at its end: a quote, or a reverse
solidus with nothing behind it.

The parts say nothing of how a text is scanned. That scanning finds the words of every spelling
is an induction on the parts, with one lemma for the step over a part; that every text is a
spelling or leaves something open is one on its length. Together they say for each text how
scanning it ends.
-/

namespace NoteTemplates
namespace Words

/-- A character between double quotes, perhaps behind a reverse solidus. -/
inductive Inner where
  | plain (c : Char) (h : c ≠ '"' ∧ c ≠ '\\')
  | escaped (c : Char)

namespace Inner

def write : Inner → Text
  | plain c _ => [c]
  | escaped c => ['\\', c]

/-- A reverse solidus stands for itself unless it is before another or before the quote. -/
def meaning : Inner → Text
  | plain c _ => [c]
  | escaped c => if c = '\\' || c = '"' then [c] else ['\\', c]

end Inner

/-- Whether a character stands for itself in a word outside of quotes. -/
def standsForItself (c : Char) : Bool :=
  !isGap c && c ≠ '\'' && c ≠ '"' && c ≠ '\\'

/-- A part of a command. -/
inductive Part where
  | gap (c : Char) (h : isGap c = true)
  | plain (c : Char) (h : standsForItself c = true)
  | escaped (c : Char)
  | single (s : Text) (h : '\'' ∉ s)
  | double (s : List Inner)

namespace Part

def write : Part → Text
  | gap c _ => [c]
  | plain c _ => [c]
  | escaped c => ['\\', c]
  | single s _ => '\'' :: (s ++ ['\''])
  | double s => '"' :: (s.flatMap Inner.write ++ ['"'])

/-- The characters that a part adds to its word; quotes may add none. -/
def meaning : Part → Text
  | gap _ _ => []
  | plain c _ => [c]
  | escaped c => [c]
  | single s _ => s
  | double s => s.flatMap Inner.meaning

def isBetween : Part → Bool
  | gap _ _ => true
  | _ => false

end Part

/-- The text that parts spell. -/
def spelling (parts : List Part) : Text :=
  parts.flatMap Part.write

/-- The words that parts spell: what the runs between gaps stand for. -/
def wordsOf (parts : List Part) : List Text :=
  ((parts.splitOnP Part.isBetween).filter fun run => !run.isEmpty).map
    fun run => run.flatMap Part.meaning

/-- A text spells words. -/
def Spells (s : Text) (words : List Text) : Prop :=
  ∃ parts, spelling parts = s ∧ wordsOf parts = words

/-- What a text can end with that leaves something open. -/
inductive OpenEnd : Text → WordsError → Prop
  | escape : OpenEnd ['\\'] .loneEscape
  | single (s : Text) (h : '\'' ∉ s) : OpenEnd ('\'' :: s) .openQuotation
  | double (s : List Inner) : OpenEnd ('"' :: s.flatMap Inner.write) .openQuotation
  | escapeInDouble (s : List Inner) :
      OpenEnd ('"' :: (s.flatMap Inner.write ++ ['\\'])) .loneEscape

/-- A text leaves something open at its end, behind parts. -/
def LeavesOpen (s : Text) (e : WordsError) : Prop :=
  ∃ parts tail, s = spelling parts ++ tail ∧ OpenEnd tail e

section Scanning

variable {s : Text} {e : WordsError}

theorem extend_extend (word : Option Text) (s t : Text) :
    extend (extend word s) t = extend word (s ++ t) := by
  simp [extend]

/-- Between single quotes every character stands for itself. -/
theorem scan_single (h : '\'' ∉ s) (word : Option Text) (rest : Text) :
    scan (.quoted '\'') (extend word []) (s ++ rest) =
      scan (.quoted '\'') (extend word s) rest := by
  suffices hmore : ∀ t : Text, scan (.quoted '\'') (extend word t) (s ++ rest) =
      scan (.quoted '\'') (extend word (t ++ s)) rest from hmore []
  induction s with
  | nil => simp
  | cons c s ih =>
      intro t
      obtain ⟨hc, hs⟩ := not_or.mp (mt List.mem_cons.mpr h)
      have hquote : ¬ c = '\'' := fun heq => hc heq.symm
      rw [List.cons_append, scan, if_neg hquote, if_neg (by simp), extend_extend, ih hs,
        List.append_assoc]
      rfl

/-- Between double quotes characters stand for what they mean there. -/
theorem scan_double (s : List Inner) (word : Option Text) (rest : Text) :
    scan (.quoted '"') (extend word []) (s.flatMap Inner.write ++ rest) =
      scan (.quoted '"') (extend word (s.flatMap Inner.meaning)) rest := by
  suffices hmore : ∀ t : Text,
      scan (.quoted '"') (extend word t) (s.flatMap Inner.write ++ rest) =
        scan (.quoted '"') (extend word (t ++ s.flatMap Inner.meaning)) rest from hmore []
  induction s with
  | nil => simp
  | cons inner s ih =>
      intro t
      rw [List.flatMap_cons, List.flatMap_cons, List.append_assoc, ← List.append_assoc t]
      cases inner with
      | plain c h =>
          rw [Inner.write, List.singleton_append, scan, if_neg h.1, if_neg (by simp [h.2]),
            extend_extend, ih]
          rfl
      | escaped c =>
          have hsolidus : ¬ '\\' = '"' := by decide
          rw [Inner.write, Inner.meaning, List.cons_append, List.singleton_append, scan,
            if_neg hsolidus, if_pos (by decide), scan]
          split <;> rw [extend_extend, ih]

/-- The step over a part that is no gap: the word goes on with what the part means. -/
theorem scan_part {part : Part} (h : part.isBetween = false) (word : Option Text)
    (rest : Text) :
    scan .plain word (part.write ++ rest) = scan .plain (extend word part.meaning) rest := by
  cases part with
  | gap c hc => cases h
  | plain c hc =>
      simp only [standsForItself, Bool.and_eq_true, Bool.not_eq_true', ne_eq, decide_not,
        decide_eq_false_iff_not] at hc
      obtain ⟨⟨⟨hgap, hsingle⟩, hdouble⟩, hsolidus⟩ := hc
      rw [Part.write, List.singleton_append, scan, if_neg (by simp [hgap]),
        if_neg (by simp [hsingle, hdouble]), if_neg hsolidus]
      rfl
  | escaped c =>
      have hstart : scan .plain word ('\\' :: c :: rest) =
          scan .escaped (extend word []) (c :: rest) := by
        rw [scan, if_neg (by decide), if_neg (by decide), if_pos rfl]
      rw [Part.write, List.cons_append, List.singleton_append, hstart, scan, extend_extend]
      rfl
  | single s hs =>
      rw [Part.write, List.cons_append, List.append_assoc, scan, if_neg (by decide),
        if_pos (by decide), scan_single hs, List.singleton_append, scan, if_pos rfl]
      rfl
  | double s =>
      rw [Part.write, List.cons_append, List.append_assoc, scan, if_neg (by decide),
        if_pos (by decide), scan_double, List.singleton_append, scan, if_pos rfl]
      rfl

/-- The step over a gap: the word begun, if there is one, is finished. -/
theorem scan_gap {part : Part} (h : part.isBetween = true) (word : Option Text) (rest : Text) :
    scan .plain word (part.write ++ rest) = (scan .plain none rest).map (finish word) := by
  cases part with
  | gap c hc => rw [Part.write, List.singleton_append, scan, if_pos hc]
  | _ => cases h

theorem scan_openEnd (h : OpenEnd s e) (word : Option Text) :
    scan .plain word s = .error e := by
  cases h with
  | escape => rfl
  | single s hs =>
      have hscan := scan_single hs word []
      rw [List.append_nil] at hscan
      rw [scan, if_neg (by decide), if_pos (by decide), hscan, scan]
  | double s =>
      have hscan := scan_double s word []
      rw [List.append_nil] at hscan
      rw [scan, if_neg (by decide), if_pos (by decide), hscan, scan]
  | escapeInDouble s =>
      rw [scan, if_neg (by decide), if_pos (by decide), scan_double, scan,
        if_neg (by decide), if_pos (by decide), scan]

end Scanning

section Parts

variable {s : Text} {parts run : List Part} {words : List Text} {e : WordsError}

/-- The word that parts without gaps have begun; no parts have begun none. -/
def begun (run : List Part) : Option Text :=
  if run.isEmpty then none else some (run.flatMap Part.meaning)

theorem begun_append_singleton (run : List Part) (part : Part) :
    begun (run ++ [part]) = extend (begun run) part.meaning := by
  cases run with
  | nil => simp [begun, extend]
  | cons first run => simp [begun, extend]

theorem wordsOf_of_noGap (h : ∀ part ∈ run, part.isBetween = false) :
    wordsOf run = finish (begun run) [] := by
  rw [wordsOf, List.splitOnP_eq_singleton h]
  cases run <;> rfl

theorem wordsOf_append_gap (h : ∀ part ∈ run, part.isBetween = false) {gap : Part}
    (hgap : gap.isBetween = true) (parts : List Part) :
    wordsOf (run ++ gap :: parts) = finish (begun run) (wordsOf parts) := by
  rw [wordsOf, List.splitOnP_append_cons_of_forall_mem h gap hgap]
  cases run <;> rfl

theorem wordsOf_gap {gap : Part} (hgap : gap.isBetween = true) (parts : List Part) :
    wordsOf (gap :: parts) = wordsOf parts := by
  have hnone : ∀ part ∈ ([] : List Part), part.isBetween = false := by simp
  exact wordsOf_append_gap hnone hgap parts

/-- A run of parts is not dropped, even if it means nothing. -/
theorem wordsOf_append_ne_nil (h : ∀ part ∈ run, part.isBetween = false) (hne : run ≠ [])
    (parts : List Part) : wordsOf (run ++ parts) ≠ [] := by
  have hbegun : begun run = some (run.flatMap Part.meaning) :=
    if_neg fun hempty => hne (List.isEmpty_iff.mp hempty)
  induction parts generalizing run with
  | nil =>
      rw [List.append_nil, wordsOf_of_noGap h, hbegun]
      exact List.cons_ne_nil _ _
  | cons part parts ih =>
      cases hpart : part.isBetween with
      | true =>
          rw [wordsOf_append_gap h hpart, hbegun]
          exact List.cons_ne_nil _ _
      | false =>
          have hlonger : ∀ p ∈ run ++ [part], p.isBetween = false := by
            simpa [or_imp, forall_and, hpart] using h
          have hrest := ih hlonger (by simp) (by simp [begun])
          rwa [List.append_assoc, List.singleton_append] at hrest

/-- A text spells no words exactly if all of it is gaps. -/
theorem spells_nil_iff : Spells s [] ↔ ∀ c ∈ s, isGap c = true := by
  constructor
  · rintro ⟨parts, rfl, hwords⟩
    induction parts with
    | nil => simp [spelling]
    | cons part parts ih =>
        cases hpart : part.isBetween with
        | true =>
            rw [wordsOf_gap hpart] at hwords
            cases part with
            | gap c hc => simpa [spelling, Part.write, hc] using ih hwords
            | _ => cases hpart
        | false =>
            have hrun : ∀ p ∈ [part], p.isBetween = false := by simpa using hpart
            exact absurd hwords (wordsOf_append_ne_nil hrun (by simp) parts)
  · intro h
    induction s with
    | nil => exact ⟨[], rfl, rfl⟩
    | cons c s ih =>
        obtain ⟨parts, rfl, hwords⟩ := ih fun d hd => h d (by simp [hd])
        have hc : isGap c = true := h c (by simp)
        exact ⟨.gap c hc :: parts, rfl, (wordsOf_gap rfl parts).trans hwords⟩

/--
Scanning finds the words that parts spell. The induction is on the parts, and a word that was
begun by a run of them is carried along.
-/
theorem scan_spelling (h : ∀ part ∈ run, part.isBetween = false) (parts : List Part) :
    scan .plain (begun run) (spelling parts) = .ok (wordsOf (run ++ parts)) := by
  induction parts generalizing run with
  | nil =>
      rw [List.append_nil, wordsOf_of_noGap h]
      rfl
  | cons part parts ih =>
      rw [spelling, List.flatMap_cons, ← spelling]
      cases hpart : part.isBetween with
      | true =>
          have hnone : ∀ p ∈ ([] : List Part), p.isBetween = false := by simp
          have hrest : scan .plain none (spelling parts) = .ok (wordsOf parts) := ih hnone
          rw [wordsOf_append_gap h hpart, scan_gap hpart, hrest]
          rfl
      | false =>
          have hlonger : ∀ p ∈ run ++ [part], p.isBetween = false := by
            simpa [or_imp, forall_and, hpart] using h
          rw [scan_part hpart, ← begun_append_singleton, ih hlonger, List.append_assoc,
            List.singleton_append]

/-- What is open behind parts stays open. -/
theorem scan_leavesOpen {tail : Text} (h : OpenEnd tail e) (word : Option Text)
    (parts : List Part) : scan .plain word (spelling parts ++ tail) = .error e := by
  induction parts generalizing word with
  | nil => exact scan_openEnd h word
  | cons part parts ih =>
      rw [spelling, List.flatMap_cons, ← spelling, List.append_assoc]
      cases hpart : part.isBetween with
      | true =>
          rw [scan_gap hpart, ih]
          rfl
      | false => rw [scan_part hpart, ih]

/-- What stands behind a double quote: characters up to the next, or up to an open end. -/
theorem exists_inner (s : Text) :
    ∃ (inner : List Inner) (tail : Text), s = inner.flatMap Inner.write ++ tail ∧
      (tail = [] ∨ tail = ['\\'] ∨ ∃ rest, tail = '"' :: rest) := by
  induction hlength : s.length using Nat.strongRecOn generalizing s with
  | ind n ih =>
      match s with
      | [] => exact ⟨[], [], rfl, Or.inl rfl⟩
      | c :: s =>
          by_cases hquote : c = '"'
          · exact ⟨[], _, rfl, Or.inr (Or.inr ⟨s, by rw [hquote]⟩)⟩
          · by_cases hsolidus : c = '\\'
            · subst hsolidus
              match s with
              | [] => exact ⟨[], _, rfl, Or.inr (Or.inl rfl)⟩
              | d :: s =>
                  obtain ⟨inner, tail, hs, htail⟩ := ih s.length (by simp at hlength; omega) s rfl
                  exact ⟨.escaped d :: inner, tail, by rw [hs]; rfl, htail⟩
            · obtain ⟨inner, tail, hs, htail⟩ := ih s.length (by simp at hlength; omega) s rfl
              exact ⟨.plain c ⟨hquote, hsolidus⟩ :: inner, tail, by rw [hs]; rfl, htail⟩

/-- What a text begins with: nothing, a part, or an open end that is all of it. -/
theorem exists_part (s : Text) :
    s = [] ∨ (∃ e, OpenEnd s e) ∨ ∃ (part : Part) (rest : Text), s = part.write ++ rest := by
  cases s with
  | nil => exact Or.inl rfl
  | cons c s =>
      right
      by_cases hgap : isGap c = true
      · exact Or.inr ⟨.gap c hgap, s, rfl⟩
      by_cases hsingle : c = '\''
      · subst hsingle
        by_cases hmem : '\'' ∈ s
        · obtain ⟨front, rest, rfl, hfront⟩ := List.eq_append_cons_of_mem hmem
          exact Or.inr ⟨.single front hfront, rest, by simp [Part.write]⟩
        · exact Or.inl ⟨_, .single s hmem⟩
      by_cases hdouble : c = '"'
      · subst hdouble
        obtain ⟨inner, tail, rfl, rfl | rfl | ⟨rest, rfl⟩⟩ := exists_inner s
        · rw [List.append_nil]
          exact Or.inl ⟨_, .double inner⟩
        · exact Or.inl ⟨_, .escapeInDouble inner⟩
        · exact Or.inr ⟨.double inner, rest, by simp [Part.write]⟩
      by_cases hsolidus : c = '\\'
      · subst hsolidus
        cases s with
        | nil => exact Or.inl ⟨_, .escape⟩
        | cons d s => exact Or.inr ⟨.escaped d, s, rfl⟩
      · exact Or.inr ⟨.plain c (by simp [standsForItself, hgap, hsingle, hdouble, hsolidus]), s,
          rfl⟩

theorem Part.write_ne_nil (part : Part) : part.write ≠ [] := by
  cases part <;> simp [write]

/-- Every text spells words or leaves something open. -/
theorem spells_or_leavesOpen (s : Text) :
    (∃ words, Spells s words) ∨ ∃ e, LeavesOpen s e := by
  induction hlength : s.length using Nat.strongRecOn generalizing s with
  | ind n ih =>
      rcases exists_part s with rfl | ⟨e, hopen⟩ | ⟨part, rest, rfl⟩
      · exact Or.inl ⟨_, [], rfl, rfl⟩
      · exact Or.inr ⟨e, [], s, rfl, hopen⟩
      · have hpos : 0 < part.write.length := List.length_pos_iff.mpr part.write_ne_nil
        rw [List.length_append] at hlength
        rcases ih rest.length (by omega) rest rfl with
          ⟨words, parts, hparts, -⟩ | ⟨e, parts, tail, hparts, hopen⟩
        · exact Or.inl ⟨_, part :: parts, by rw [spelling, List.flatMap_cons, ← spelling, hparts],
            rfl⟩
        · refine Or.inr ⟨e, part :: parts, tail, ?_, hopen⟩
          rw [hparts, spelling, spelling, List.flatMap_cons, List.append_assoc]

theorem ofText_of_spells (h : Spells s words) : ofText s = .ok words := by
  obtain ⟨parts, rfl, rfl⟩ := h
  have hnone : ∀ part ∈ ([] : List Part), part.isBetween = false := by simp
  exact scan_spelling hnone parts

theorem ofText_of_leavesOpen (h : LeavesOpen s e) : ofText s = .error e := by
  obtain ⟨parts, tail, rfl, hopen⟩ := h
  exact scan_leavesOpen hopen none parts

theorem Spells.not_leavesOpen (h : Spells s words) (e : WordsError) : ¬ LeavesOpen s e := by
  intro hopen
  have herror := ofText_of_leavesOpen hopen
  rw [ofText_of_spells h] at herror
  cases herror

/-- The words of a text are those that it spells. -/
theorem ofText_eq_ok_iff : ofText s = .ok words ↔ Spells s words := by
  refine ⟨fun h => ?_, ofText_of_spells⟩
  rcases spells_or_leavesOpen s with ⟨words', hspells⟩ | ⟨e, hopen⟩
  · rw [ofText_of_spells hspells] at h
    cases h
    exact hspells
  · rw [ofText_of_leavesOpen hopen] at h
    cases h

example : ofText "ed -a 'b c' \"\\\"\" ''" = .ok ["ed", "-a", "b c", "\"", ""] := rfl

/-- A text has no words exactly if it leaves something open. -/
theorem ofText_eq_error_iff : ofText s = .error e ↔ LeavesOpen s e := by
  refine ⟨fun h => ?_, ofText_of_leavesOpen⟩
  rcases spells_or_leavesOpen s with ⟨words, hspells⟩ | ⟨e', hopen⟩
  · rw [ofText_of_spells hspells] at h
    cases h
  · rw [ofText_of_leavesOpen hopen] at h
    cases h
    exact hopen

end Parts

end Words
end NoteTemplates
