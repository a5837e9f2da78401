import Mathlib
import NoteTemplates.Proofs.Substituting

/-!
# Texts cut at their prompts

A question is a text on one line without a closing tag; a prompt is a question between its
tags. A text is laid out as what stands before its first prompt, and each question with what
stands between it and the next. Answers are put in the stead of the prompts that the cut
finds, so they land where prompts were put together into a text if and only if each of these
prompts is found at its place. That can be seen at each prompt by itself, from the prompt
and what stands before it.
-/

namespace NoteTemplates
namespace Prompt

/-- What can stand between the tags of a prompt. -/
def IsQuestion (q : Text) : Prop :=
  '\n' ∉ q ∧ ¬ closeTag <:+: q

section Finding

variable {q s t rest : Text}

theorem closeTag_eq : closeTag = '<' :: ("/prompt>" : Text) := by
  decide

theorem openTag_eq : openTag = '<' :: ("prompt>" : Text) := by
  decide

theorem closeTag_append (s : Text) : closeTag ++ s = '<' :: (("/prompt>" : Text) ++ s) := by
  rw [closeTag_eq, List.cons_append]

theorem closeTag_ne_nil : closeTag ≠ [] := by
  decide

/-- A closing tag that begins in front of an angle bracket ends in front of it. -/
theorem closeTag_prefix_of_append (hs : s ≠ []) (h : closeTag <+: s ++ '<' :: t) :
    closeTag <+: s := by
  cases s with
  | nil => exact absurd rfl hs
  | cons c s =>
      rw [closeTag_eq, List.cons_append, List.cons_prefix_cons] at h
      rw [closeTag_eq, List.cons_prefix_cons]
      exact ⟨h.1, Text.prefix_of_prefix_append_cons (by decide) h.2⟩

/-- What comes before the first closing tag is a question. -/
theorem beforeClose?_eq_some :
    beforeClose? s = some q ↔ ∃ rest, s = q ++ (closeTag ++ rest) ∧ IsQuestion q := by
  induction s generalizing q with
  | nil =>
      constructor
      · intro h
        cases h
      · rintro ⟨rest, hrest, -⟩
        have hnil := List.append_eq_nil_iff.mp (List.append_eq_nil_iff.mp hrest.symm).2
        exact absurd hnil.1 closeTag_ne_nil
  | cons c s ih =>
      rw [beforeClose?]
      by_cases hclose : Text.startsWith closeTag (c :: s) = true
      · rw [if_pos hclose]
        obtain ⟨rest, hrest⟩ := Text.startsWith_iff.mp hclose
        constructor
        · intro h
          cases h
          refine ⟨rest, hrest.symm, by simp, fun hinside => ?_⟩
          exact closeTag_ne_nil (List.infix_nil.mp hinside)
        · rintro ⟨rest', hrest', -, hno⟩
          cases q with
          | nil => rfl
          | cons d q =>
              have hbegins : closeTag <+: (d :: q) ++ '<' :: (("/prompt>" : Text) ++ rest') := by
                rw [← closeTag_append, ← hrest']
                exact ⟨rest, hrest⟩
              exact absurd (closeTag_prefix_of_append (by simp) hbegins).isInfix hno
      · rw [if_neg hclose]
        have hno : ¬ closeTag <+: c :: s := fun h => hclose (Text.startsWith_iff.mpr h)
        by_cases hline : c = '\n'
        · rw [if_pos hline]
          constructor
          · intro h
            cases h
          · rintro ⟨rest, hrest, hnone, -⟩
            cases q with
            | nil => exact absurd ⟨rest, hrest.symm⟩ hno
            | cons d q =>
                have hd : c = d := (List.cons.inj hrest).1
                exact absurd (by simp [← hd, hline]) hnone
        · rw [if_neg hline, Option.map_eq_some_iff]
          constructor
          · rintro ⟨q, hq, rfl⟩
            obtain ⟨rest, rfl, hnone, hfree⟩ := ih.mp hq
            refine ⟨rest, rfl, by simp [hnone, Ne.symm hline], fun hinside => ?_⟩
            rcases List.infix_cons_iff.mp hinside with hbegins | hinside
            · exact hno (hbegins.trans (List.prefix_append (c :: q) _))
            · exact hfree hinside
          · rintro ⟨rest, hrest, hnone, hfree⟩
            cases q with
            | nil => exact absurd ⟨rest, hrest.symm⟩ hno
            | cons d q =>
                obtain ⟨rfl, rfl⟩ := List.cons.inj hrest
                have hq : IsQuestion q :=
                  ⟨fun hmem => hnone (List.mem_cons_of_mem c hmem),
                    fun hinside => hfree (List.infix_cons hinside)⟩
                exact ⟨q, ih.mpr ⟨rest, rfl, hq⟩, rfl⟩

/-- A text begins with a prompt if it begins with a question between tags. -/
theorem question?_eq_some :
    question? s = some q ↔ ∃ rest, s = write q ++ rest ∧ IsQuestion q := by
  rw [question?, Option.bind_eq_some_iff]
  constructor
  · rintro ⟨behind, hbehind, hq⟩
    obtain ⟨rest, rfl, hquestion⟩ := beforeClose?_eq_some.mp hq
    rw [Text.afterPrefix?_eq_some] at hbehind
    exact ⟨rest, by rw [hbehind, write]; simp, hquestion⟩
  · rintro ⟨rest, rfl, hquestion⟩
    refine ⟨q ++ (closeTag ++ rest), ?_, beforeClose?_eq_some.mpr ⟨rest, rfl, hquestion⟩⟩
    rw [Text.afterPrefix?_eq_some, write]
    simp

/-- Two texts in front of closing tags are the same if they hold none themselves. -/
theorem eq_of_append_closeTag {q' rest' : Text} (hq : ¬ closeTag <:+: q)
    (hq' : ¬ closeTag <:+: q') (h : q ++ (closeTag ++ rest) = q' ++ (closeTag ++ rest')) :
    q = q' := by
  have hshort {q q' rest rest' : Text} (hq : ¬ closeTag <:+: q)
      (h : q ++ (closeTag ++ rest) = q' ++ (closeTag ++ rest')) : q <+: q' := by
    rcases List.append_eq_append_iff.mp h with ⟨d, rfl, -⟩ | ⟨d, rfl, hd⟩
    · exact List.prefix_append q d
    · by_cases hnil : d = []
      · exact ⟨[], by simp [hnil]⟩
      · rw [closeTag_append rest] at hd
        have hinside := (closeTag_prefix_of_append hnil ⟨rest', hd⟩).isInfix
        exact absurd (hinside.trans (List.suffix_append q' d).isInfix) hq
  exact (hshort hq h).eq_of_length_le (hshort hq' h.symm).length_le

end Finding

section Cutting

variable {q s rest : Text} {c : Char}

theorem write_ne_nil (q : Text) : write q ≠ [] := by
  rw [write, openTag_eq]
  simp

/-- A prompt at the beginning of a text is the first piece. -/
theorem cut_write (hq : IsQuestion q) (rest : Text) :
    cut (write q ++ rest) = .found q :: cut rest := by
  refine Text.cut_append_of_some (write_ne_nil q) ?_
  rw [find, question?_eq_some.mpr ⟨rest, rfl, hq⟩, Option.map_some]

/-- A character at which no prompt begins is a piece. -/
theorem cut_cons (h : question? (c :: s) = none) : cut (c :: s) = .plain c :: cut s := by
  refine Text.cut_cons_of_none ?_
  rw [find, h, Option.map_none]

/-- Induction along the pieces of a text. -/
theorem cut_induction {motive : Text → Prop} (nil : motive [])
    (found : ∀ q rest, IsQuestion q → motive rest → motive (write q ++ rest))
    (plain : ∀ c s, question? (c :: s) = none → motive s → motive (c :: s)) (s : Text) :
    motive s := by
  have hfind (s : Text) : question? s = none ∨
      ∃ m rest, s = m ++ rest ∧ ∃ q, IsQuestion q ∧ write q = m := by
    cases hq : question? s with
    | none => exact Or.inl rfl
    | some q =>
        obtain ⟨rest, hrest, hquestion⟩ := question?_eq_some.mp hq
        exact Or.inr ⟨write q, rest, hrest, q, hquestion, rfl⟩
  refine Text.cut_induction hfind ?_ nil ?_ plain s
  · rintro _ ⟨q, -, rfl⟩
    exact write_ne_nil q
  · rintro _ rest ⟨q, hquestion, rfl⟩
    exact found q rest hquestion

/-- The pieces written one after the other are the text. -/
def written (pieces : List (Text.Piece Text)) : Text :=
  pieces.flatMap (Text.Piece.write write)

theorem written_cut (s : Text) : written (cut s) = s := by
  induction s using cut_induction with
  | nil => rfl
  | found q rest hq ih =>
      rw [cut_write hq, written, List.flatMap_cons, ← written, ih]
      rfl
  | plain c s hno ih =>
      rw [cut_cons hno, written, List.flatMap_cons, ← written, ih]
      rfl

/-- What is found in a text is a question. -/
theorem isQuestion_of_mem_cut (h : .found q ∈ cut s) : IsQuestion q := by
  induction s using cut_induction with
  | nil => cases h
  | found q' rest hq ih =>
      rw [cut_write hq] at h
      rcases List.mem_cons.mp h with heq | h
      · cases heq
        exact hq
      · exact ih h
  | plain c s hno ih =>
      rw [cut_cons hno] at h
      rcases List.mem_cons.mp h with heq | h
      · cases heq
      · exact ih h

/--
Whether a prompt begins a text can be seen from what goes up to a closing tag that stands
far enough behind.
-/
theorem question?_append_closeTag (hlength : openTag.length ≤ s.length) (rest : Text) :
    question? (s ++ (closeTag ++ rest)) = question? (s ++ closeTag) := by
  refine Option.ext fun q => ?_
  rw [question?_eq_some, question?_eq_some]
  constructor
  · rintro ⟨behind, heq, hq⟩
    rw [write, List.append_assoc, List.append_assoc] at heq
    obtain ⟨u, rfl⟩ : openTag <+: s :=
      List.prefix_of_prefix_length_le ⟨_, heq.symm⟩ (List.prefix_append s _) hlength
    rw [List.append_assoc, List.append_cancel_left_eq] at heq
    rcases List.append_eq_append_iff.mp heq with ⟨d, rfl, hd⟩ | ⟨e, rfl, he⟩
    · by_cases hnil : d = []
      · refine ⟨[], ?_, hq⟩
        rw [hnil, write]
        simp
      · rw [closeTag_append behind] at hd
        have hinside := (closeTag_prefix_of_append hnil ⟨rest, hd⟩).isInfix
        exact absurd (hinside.trans (List.suffix_append u d).isInfix) hq.2
    · obtain ⟨r, hr⟩ : closeTag <+: e ++ closeTag :=
        List.prefix_of_prefix_length_le ⟨behind, he⟩ ⟨rest, by rw [List.append_assoc]⟩
          (by simp)
      refine ⟨r, ?_, hq⟩
      rw [write]
      simp only [List.append_assoc, hr]
  · rintro ⟨behind, heq, hq⟩
    exact ⟨behind ++ rest, by rw [← List.append_assoc, heq, List.append_assoc], hq⟩

end Cutting

section Standing

variable {head next q : Text} {pairs : List (Text × Text)} {pieces : List (Text.Piece Text)}

/-- Whether a prompt begins a text can be seen from what goes up to the end of one behind it. -/
theorem question?_append_write (s q rest : Text) :
    question? (s ++ (write q ++ rest)) = question? (s ++ write q) := by
  have hlength : openTag.length ≤ (s ++ (openTag ++ q)).length := by
    simp only [List.length_append]
    omega
  have hlook := question?_append_closeTag hlength rest
  simp only [List.append_assoc] at hlook
  simp only [write, List.append_assoc, hlook]

theorem question?_of_cut_plain {c d : Char} {s : Text} {more : List (Text.Piece Text)}
    (h : cut (c :: s) = .plain d :: more) : question? (c :: s) = none := by
  cases hq : question? (c :: s) with
  | none => rfl
  | some q =>
      obtain ⟨rest, hrest, hquestion⟩ := question?_eq_some.mp hq
      rw [hrest, cut_write hquestion] at h
      cases h

/-- A prompt that is found behind a text that holds none is found there whatever follows. -/
theorem cut_append_write (h : cut (head ++ write q) = head.map .plain ++ [.found q])
    (rest : Text) :
    cut (head ++ (write q ++ rest)) = head.map .plain ++ .found q :: cut rest := by
  induction head with
  | nil =>
      have hmem : .found q ∈ cut (write q) := by
        rw [show cut (write q) = [.found q] from h]
        exact List.mem_singleton_self _
      exact cut_write (isQuestion_of_mem_cut hmem) rest
  | cons c head ih =>
      rw [List.cons_append, List.map_cons, List.cons_append] at h ⊢
      have hno := question?_of_cut_plain h
      have hno' : question? (c :: (head ++ (write q ++ rest))) = none :=
        (question?_append_write (c :: head) q rest).trans hno
      rw [cut_cons hno, List.cons.injEq] at h
      rw [cut_cons hno', ih h.2]

/-- Where a prompt is found first behind a text, it is found without what follows. -/
theorem cut_of_cut_append_write {more : List (Text.Piece Text)} {rest : Text}
    (h : cut (head ++ (write q ++ rest)) = head.map .plain ++ .found q :: more) :
    cut (head ++ write q) = head.map .plain ++ [.found q] ∧ more = cut rest := by
  induction head with
  | nil =>
      have hmem : .found q ∈ cut (write q ++ rest) := by
        rw [show cut (write q ++ rest) = .found q :: more from h]
        exact List.mem_cons_self
      have hq := isQuestion_of_mem_cut hmem
      have hfound : cut (write q ++ []) = [.found q] := cut_write hq []
      rw [List.append_nil] at hfound
      refine ⟨hfound, ?_⟩
      have hcut := (cut_write hq rest).symm.trans h
      exact (List.cons.inj hcut).2.symm
  | cons c head ih =>
      rw [List.cons_append, List.map_cons, List.cons_append] at h ⊢
      have hno := question?_of_cut_plain h
      have hno' : question? (c :: (head ++ write q)) = none :=
        (question?_append_write (c :: head) q rest).symm.trans hno
      rw [cut_cons hno, List.cons.injEq] at h
      obtain ⟨hfirst, hmore⟩ := ih h.2
      exact ⟨by rw [cut_cons hno', hfirst], hmore⟩

/-- Texts put together by turns: the first one, then what stands between and the next. -/
def weave (head : Text) (pairs : List (Text × Text)) : Text :=
  head ++ pairs.flatMap fun (between, next) => between ++ next

@[simp] theorem weave_nil (head : Text) : weave head [] = head :=
  List.append_nil head

@[simp] theorem weave_cons (head between next : Text) (pairs : List (Text × Text)) :
    weave head ((between, next) :: pairs) = head ++ (between ++ weave next pairs) := by
  simp [weave]

/-- Questions and the texts behind them with the questions written as prompts. -/
def asPrompts (pairs : List (Text × Text)) : List (Text × Text) :=
  pairs.map fun (q, next) => (write q, next)

/-- Answers in the stead of the questions. -/
def answered (pairs : List (Text × Text)) (answers : List Text) : List (Text × Text) :=
  answers.zip (pairs.map (·.2))

/--
Each prompt is found right behind the text in front of it: no prompt begins earlier, and none
ends earlier or later.
-/
def Stands : Text → List (Text × Text) → Prop
  | _, [] => True
  | head, (q, next) :: pairs =>
    cut (head ++ write q) = head.map .plain ++ [.found q] ∧ Stands next pairs

/-- Pieces with given questions at given places; what comes behind the last one is free. -/
def Follows : Text → List (Text × Text) → List (Text.Piece Text) → Prop
  | head, [], pieces => written pieces = head
  | head, (q, next) :: pairs, pieces =>
    ∃ more, pieces = head.map .plain ++ .found q :: more ∧ Follows next pairs more

theorem fill_plain (head : Text) (pieces : List (Text.Piece Text)) (answers : List Text) :
    fill (head.map .plain ++ pieces) answers = head ++ fill pieces answers := by
  induction head with
  | nil => rfl
  | cons c head ih => rw [List.map_cons, List.cons_append, fill, ih, List.cons_append]

/-- Without answers all pieces are written. -/
theorem fill_nil (pieces : List (Text.Piece Text)) : fill pieces [] = written pieces := by
  induction pieces with
  | nil => rfl
  | cons piece pieces ih =>
      rw [written, List.flatMap_cons, ← written, ← ih]
      cases piece <;> rfl

theorem written_plain (head : Text) (pieces : List (Text.Piece Text)) :
    written (head.map .plain ++ pieces) = head ++ written pieces := by
  rw [← fill_nil, fill_plain, fill_nil]

/-- Answers land where the questions are. -/
theorem Follows.fill (h : Follows head pairs pieces) {answers : List Text}
    (hlength : answers.length = pairs.length) :
    fill pieces answers = weave head (answered pairs answers) := by
  induction pairs generalizing head pieces answers with
  | nil =>
      rw [List.length_nil, List.length_eq_zero_iff] at hlength
      subst hlength
      have hwritten : written pieces = head := h
      rw [fill_nil, hwritten]
      simp [answered]
  | cons pair pairs ih =>
      obtain ⟨q, next⟩ := pair
      obtain ⟨more, rfl, hmore⟩ := h
      cases answers with
      | nil => cases hlength
      | cons answer answers =>
          rw [fill_plain, Prompt.fill, ih hmore (by simpa using hlength)]
          simp [answered]

theorem Follows.found_mem (h : Follows head pairs pieces) {pair : Text × Text}
    (hpair : pair ∈ pairs) : .found pair.1 ∈ pieces := by
  induction pairs generalizing head pieces with
  | nil => cases hpair
  | cons first pairs ih =>
      obtain ⟨q, next⟩ := first
      obtain ⟨more, rfl, hmore⟩ := h
      rcases List.mem_cons.mp hpair with rfl | hpair
      · simp
      · exact List.mem_append_right _ (List.mem_cons_of_mem _ (ih hmore hpair))

theorem Follows.written_eq (h : Follows head pairs pieces) :
    written pieces = weave head (asPrompts pairs) := by
  induction pairs generalizing head pieces with
  | nil =>
      have hwritten : written pieces = head := h
      simpa [asPrompts] using hwritten
  | cons pair pairs ih =>
      obtain ⟨q, next⟩ := pair
      obtain ⟨more, rfl, hmore⟩ := h
      rw [written_plain, written, List.flatMap_cons, ← written, ih hmore]
      simp [asPrompts, Text.Piece.write]

/-- Prompts that stand are those that the text is cut at. -/
theorem Stands.follows (h : Stands head pairs) :
    Follows head pairs (cut (weave head (asPrompts pairs))) := by
  induction pairs generalizing head with
  | nil => simpa [asPrompts, Follows] using written_cut head
  | cons pair pairs ih =>
      obtain ⟨q, next⟩ := pair
      obtain ⟨hfirst, hrest⟩ := h
      refine ⟨_, ?_, ih hrest⟩
      rw [asPrompts, List.map_cons, weave_cons, cut_append_write hfirst]
      rfl

/-- Prompts that the text is cut at stand. -/
theorem Follows.stands (h : Follows head pairs (cut (weave head (asPrompts pairs)))) :
    Stands head pairs := by
  induction pairs generalizing head with
  | nil => trivial
  | cons pair pairs ih =>
      obtain ⟨q, next⟩ := pair
      obtain ⟨more, hcut, hmore⟩ := h
      rw [asPrompts, List.map_cons, weave_cons] at hcut
      obtain ⟨hfirst, rfl⟩ := cut_of_cut_append_write hcut
      exact ⟨hfirst, ih hmore⟩

end Standing

section Counting

variable {head q : Text} {pairs others : List (Text × Text)}

/-- How often a closing tag occurs in a text. -/
def closings : Text → Nat
  | [] => 0
  | c :: s => (if Text.startsWith closeTag (c :: s) then 1 else 0) + closings s

/-- No closing tag reaches over an angle bracket. -/
theorem closings_append_open (s t : Text) :
    closings (s ++ '<' :: t) = closings s + closings ('<' :: t) := by
  induction s with
  | nil => simp [closings]
  | cons c s ih =>
      have hsame : Text.startsWith closeTag ((c :: s) ++ '<' :: t) =
          Text.startsWith closeTag (c :: s) := by
        rw [Bool.eq_iff_iff, Text.startsWith_iff, Text.startsWith_iff]
        constructor
        · exact closeTag_prefix_of_append (by simp)
        · exact fun h => h.trans (List.prefix_append _ _)
      have hcons : closings (c :: s) =
          (if Text.startsWith closeTag (c :: s) then 1 else 0) + closings s := rfl
      rw [List.cons_append] at hsame ⊢
      rw [closings, hsame, ih, hcons, Nat.add_assoc]

theorem closings_append_of_notMem {s : Text} (h : '<' ∉ s) (t : Text) :
    closings (s ++ t) = closings t := by
  induction s with
  | nil => rfl
  | cons c s ih =>
      rw [List.mem_cons, not_or] at h
      have hno : Text.startsWith closeTag (c :: (s ++ t)) = false := by
        rw [Bool.eq_false_iff, Ne, Text.startsWith_iff, closeTag_eq, List.cons_prefix_cons]
        exact fun hbegins => h.1 hbegins.1
      rw [List.cons_append, closings, hno, ih h.2]
      simp

theorem closings_write_append (q rest : Text) :
    closings (write q ++ rest) = closings q + 1 + closings rest := by
  have hopen : Text.startsWith closeTag ('<' :: (("prompt>" : Text) ++
      (q ++ (closeTag ++ rest)))) = false := by
    rw [Bool.eq_false_iff, Ne, Text.startsWith_iff, closeTag_eq, List.cons_prefix_cons]
    rintro ⟨-, hbegins⟩
    cases (List.cons_prefix_cons.mp hbegins).1
  have hclose : Text.startsWith closeTag ('<' :: (("/prompt>" : Text) ++ rest)) = true := by
    rw [← closeTag_append, Text.startsWith_iff]
    exact List.prefix_append _ _
  have hwrite : write q ++ rest = '<' :: (("prompt>" : Text) ++ (q ++ (closeTag ++ rest))) := by
    rw [write, openTag_eq]
    simp
  rw [hwrite, closings, hopen, closings_append_of_notMem (by decide), closeTag_append,
    closings_append_open, closings, hclose, closings_append_of_notMem (by decide)]
  simp
  omega

theorem closings_eq_zero : closings q = 0 ↔ ¬ closeTag <:+: q := by
  induction q with
  | nil => simp [closings, closeTag_ne_nil]
  | cons c q ih =>
      rw [closings, List.infix_cons_iff, not_or, ← ih, ← Text.startsWith_iff]
      cases Text.startsWith closeTag (c :: q) <;> simp

/-- The closing tags of texts and prompts put together. -/
theorem closings_weave (head : Text) (pairs : List (Text × Text)) :
    closings (weave head (asPrompts pairs)) =
      closings head + (pairs.map fun pair => closings pair.1).sum + pairs.length +
        ((pairs.map (·.2)).map closings).sum := by
  induction pairs generalizing head with
  | nil => simp [asPrompts]
  | cons pair pairs ih =>
      obtain ⟨q, next⟩ := pair
      have hwrite (rest : Text) : ∃ t, write q ++ rest = '<' :: t := by
        rw [write, openTag_eq]
        exact ⟨_, rfl⟩
      rw [asPrompts, List.map_cons, weave_cons, ← asPrompts]
      obtain ⟨t, ht⟩ := hwrite (weave next (asPrompts pairs))
      rw [ht, closings_append_open, ← ht, closings_write_append, ih]
      simp only [List.map_cons, List.sum_cons, List.length_cons]
      omega

/--
There is one way to part a text at prompts with given texts between them, if no closing tag
stands in the questions on one side.
-/
theorem eq_of_weave_eq (hfree : ∀ pair ∈ pairs, ¬ closeTag <:+: pair.1)
    (hsame : pairs.map (·.2) = others.map (·.2))
    (h : weave head (asPrompts pairs) = weave head (asPrompts others)) : pairs = others := by
  have hlength : pairs.length = others.length := by
    simpa using congrArg List.length hsame
  -- all closing tags are counted by the prompts on the one side, so none is in a question
  have hnone : ∀ pair ∈ others, ¬ closeTag <:+: pair.1 := by
    have hcount := congrArg closings h
    have hzero : (pairs.map fun pair => closings pair.1).sum = 0 := by
      rw [List.sum_eq_zero_iff_forall_eq_nat]
      intro n hn
      obtain ⟨pair, hpair, rfl⟩ := List.mem_map.mp hn
      exact closings_eq_zero.mpr (hfree pair hpair)
    rw [closings_weave, closings_weave, hsame, hlength, hzero] at hcount
    have hzero' : (others.map fun pair => closings pair.1).sum = 0 := by omega
    intro pair hpair
    rw [List.sum_eq_zero_iff_forall_eq_nat] at hzero'
    exact closings_eq_zero.mp (hzero' _ (List.mem_map_of_mem hpair))
  clear hlength
  induction pairs generalizing head others with
  | nil => simpa using hsame
  | cons pair pairs ih =>
      obtain ⟨q, next⟩ := pair
      cases others with
      | nil => cases hsame
      | cons other others =>
          obtain ⟨q', next'⟩ := other
          simp only [List.map_cons, List.cons.injEq] at hsame
          obtain ⟨rfl, hsame⟩ := hsame
          simp only [asPrompts, List.map_cons, weave_cons, write, List.append_assoc,
            List.append_cancel_left_eq] at h
          obtain rfl := eq_of_append_closeTag (hfree _ List.mem_cons_self)
            (hnone _ List.mem_cons_self) h
          rw [List.append_cancel_left_eq, List.append_cancel_left_eq] at h
          rw [ih (fun pair hpair => hfree pair (List.mem_cons_of_mem _ hpair)) hsame h
            fun pair hpair => hnone pair (List.mem_cons_of_mem _ hpair)]

end Counting

section Locating

variable {head : Text} {pairs : List (Text × Text)} {pieces : List (Text.Piece Text)}

/-- Pieces are characters up to the first question, if there is one. -/
theorem pieces_cases (pieces : List (Text.Piece Text)) :
    (∃ s : Text, pieces = s.map .plain) ∨
      ∃ (s q : Text) (more : List (Text.Piece Text)),
        pieces = s.map .plain ++ .found q :: more := by
  induction pieces with
  | nil => exact Or.inl ⟨[], rfl⟩
  | cons piece pieces ih =>
      cases piece with
      | found q => exact Or.inr ⟨[], q, pieces, rfl⟩
      | plain c =>
          rcases ih with ⟨s, rfl⟩ | ⟨s, q, more, rfl⟩
          · exact Or.inl ⟨c :: s, rfl⟩
          · exact Or.inr ⟨c :: s, q, more, rfl⟩

/-- Two texts with any character between them are parted at the same place. -/
theorem eq_of_append_any {s s' t t' : Text}
    (h : ∀ answer : Text, s ++ (answer ++ t) = s' ++ (answer ++ t')) : s = s' ∧ t = t' := by
  have hbegins {s s' t t' : Text}
      (h : ∀ answer : Text, s ++ (answer ++ t) = s' ++ (answer ++ t')) : s' <+: s := by
    rcases List.append_eq_append_iff.mp (h ['x']) with ⟨d, rfl, hx⟩ | ⟨d, rfl, -⟩
    · have hy := h ['y']
      rw [List.append_assoc, List.append_cancel_left_eq] at hy
      cases d with
      | nil => simp
      | cons c d =>
          have hcx : 'x' = c := (List.cons.inj hx).1
          have hcy : 'y' = c := (List.cons.inj hy).1
          exact absurd (hcx.trans hcy.symm) (by decide)
    · exact List.prefix_append s' d
  have hs : s = s' :=
    ((hbegins fun answer => (h answer).symm).eq_of_length_le (hbegins h).length_le)
  subst hs
  exact ⟨rfl, by simpa using h []⟩

/-- If all answers land between given texts, the questions are between these texts. -/
theorem follows_of_fill {stretches : List Text}
    (h : ∀ answers : List Text, answers.length = stretches.length →
      fill pieces answers = weave head (answers.zip stretches)) :
    ∃ pairs : List (Text × Text), pairs.map (·.2) = stretches ∧ Follows head pairs pieces := by
  induction stretches generalizing head pieces with
  | nil =>
      have hwritten := h [] rfl
      rw [fill_nil, List.zip_nil_left, weave_nil] at hwritten
      exact ⟨[], rfl, hwritten⟩
  | cons next stretches ih =>
      let others : List Text := List.replicate stretches.length []
      have hothers : others.length = stretches.length := List.length_replicate
      rcases pieces_cases pieces with ⟨s, rfl⟩ | ⟨s, q, more, rfl⟩
      · -- nothing is filled in, but the answers make a difference
        have hplain (answers : List Text) : fill (s.map .plain) answers = s := by
          have hfill := fill_plain s [] answers
          rw [List.append_nil] at hfill
          rw [hfill, fill, List.append_nil]
        have hnone := h ([] :: others) (by simp [hothers])
        have hone := h (['x'] :: others) (by simp [hothers])
        rw [hplain] at hnone hone
        have hlength := congrArg List.length (hnone.symm.trans hone)
        simp at hlength
      · have hland (answer : Text) (answers : List Text)
            (hlength : answers.length = stretches.length) :
            s ++ (answer ++ fill more answers) =
              head ++ (answer ++ weave next (answers.zip stretches)) := by
          have hfill := h (answer :: answers) (by simp [hlength])
          rwa [fill_plain, fill, List.zip_cons_cons, weave_cons] at hfill
        obtain ⟨rfl, -⟩ := eq_of_append_any fun answer => hland answer others hothers
        obtain ⟨pairs, hpairs, hfollows⟩ := ih fun answers hlength =>
          (eq_of_append_any fun answer => hland answer answers hlength).2
        exact ⟨(q, next) :: pairs, by rw [List.map_cons, hpairs], more, rfl, hfollows⟩

/--
Answers land where prompts were put into a text, whatever they are, if and only if each of
the prompts stands.
-/
theorem answer_weave_iff (head : Text) (pairs : List (Text × Text)) :
    (∀ answers : List Text, answers.length = pairs.length →
      answer (weave head (asPrompts pairs)) answers = weave head (answered pairs answers)) ↔
    Stands head pairs := by
  constructor
  · intro h
    obtain ⟨found, hsame, hfollows⟩ := follows_of_fill fun answers hlength =>
      h answers (by simpa using hlength)
    have hfree : ∀ pair ∈ found, ¬ closeTag <:+: pair.1 := fun pair hpair =>
      (isQuestion_of_mem_cut (hfollows.found_mem hpair)).2
    have hwritten := hfollows.written_eq
    rw [written_cut] at hwritten
    obtain rfl := eq_of_weave_eq hfree hsame hwritten.symm
    exact hfollows.stands
  · intro h answers hlength
    rw [answer, h.follows.fill hlength]

end Locating

section Layout

/-- Pieces as what stands before the first question, and each question with what follows it. -/
def stretches : List (Text.Piece Text) → Text × List (Text × Text)
  | [] => ([], [])
  | .plain c :: pieces => (c :: (stretches pieces).1, (stretches pieces).2)
  | .found q :: pieces => ([], (q, (stretches pieces).1) :: (stretches pieces).2)

/-- A text cut at its prompts. -/
def layOut (s : Text) : Text × List (Text × Text) :=
  stretches (cut s)

theorem weave_stretches (pieces : List (Text.Piece Text)) :
    weave (stretches pieces).1 (asPrompts (stretches pieces).2) = written pieces := by
  induction pieces with
  | nil => rfl
  | cons piece pieces ih =>
      rw [written, List.flatMap_cons, ← written, ← ih]
      cases piece with
      | plain c => rfl
      | found q => simp [stretches, asPrompts, Text.Piece.write]

/-- A text is put together from its layout. -/
theorem weave_layOut (s : Text) : weave (layOut s).1 (asPrompts (layOut s).2) = s :=
  (weave_stretches (cut s)).trans (written_cut s)

theorem asked_eq (pieces : List (Text.Piece Text)) :
    asked pieces = (stretches pieces).2.map (·.1) := by
  induction pieces with
  | nil => rfl
  | cons piece pieces ih => cases piece <;> simp [asked, stretches, ih]

theorem found_mem_of_mem_stretches {pieces : List (Text.Piece Text)} {pair : Text × Text}
    (h : pair ∈ (stretches pieces).2) : .found pair.1 ∈ pieces := by
  induction pieces with
  | nil => cases h
  | cons piece pieces ih =>
      cases piece with
      | plain c => exact List.mem_cons_of_mem _ (ih h)
      | found q =>
          rcases List.mem_cons.mp h with rfl | h
          · exact List.mem_cons_self
          · exact List.mem_cons_of_mem _ (ih h)

theorem isQuestion_of_mem_layOut {s : Text} {pair : Text × Text} (h : pair ∈ (layOut s).2) :
    IsQuestion pair.1 :=
  isQuestion_of_mem_cut (found_mem_of_mem_stretches h)

/-- The questions of a text are those of its layout. -/
theorem questions_eq (s : Text) : questions s = (layOut s).2.map (·.1) :=
  asked_eq (cut s)

end Layout

section Taming

variable {head : Text} {pairs : List (Text × Text)}

/--
A text in which no angle bracket begins the tag of a prompt, nor would with a value behind
it: none is followed by the first letter of a tag or of a token.
-/
def IsTame (s : Text) : Prop :=
  s.IsChain fun c d => c = '<' → d ≠ 'p' ∧ d ≠ '\x7b'

theorem isTame_of_notMem {s : Text} (h : '<' ∉ s) : IsTame s := by
  induction s with
  | nil => exact List.isChain_nil
  | cons c s ih =>
      rw [List.mem_cons, not_or] at h
      exact (ih h.2).cons fun d _ hc => absurd hc.symm h.1

/-- No prompt begins at a character other than a bracket in front of the letter of a tag. -/
theorem question?_eq_none {c : Char} {s : Text} (h : c = '<' → ∀ d ∈ s.head?, d ≠ 'p') :
    question? (c :: s) = none := by
  rw [Option.eq_none_iff_forall_ne_some]
  intro q hq
  obtain ⟨rest, hrest, -⟩ := question?_eq_some.mp hq
  rw [write, openTag_eq] at hrest
  obtain ⟨hc, hs⟩ := List.cons.inj hrest
  exact h hc 'p' (by rw [hs]; rfl) rfl

/-- Prompts with tame texts between them stand, if no question has brackets or two lines. -/
theorem stands_of_isTame (hhead : IsTame head)
    (hpairs : ∀ pair ∈ pairs, '<' ∉ pair.1 ∧ '\n' ∉ pair.1 ∧ IsTame pair.2) :
    Stands head pairs := by
  induction pairs generalizing head with
  | nil => trivial
  | cons pair pairs ih =>
      obtain ⟨q, next⟩ := pair
      obtain ⟨hopen, hline, hnext⟩ := hpairs (q, next) List.mem_cons_self
      have hq : IsQuestion q := ⟨hline, fun hinside => hopen (hinside.mem (by decide))⟩
      refine ⟨?_, ih hnext fun pair hpair => hpairs pair (List.mem_cons_of_mem _ hpair)⟩
      have hprompt := cut_write hq []
      rw [List.append_nil] at hprompt
      induction head with
      | nil => exact hprompt
      | cons c head ihHead =>
          obtain ⟨hfirst, hrest⟩ := List.isChain_cons.mp hhead
          have hno : question? (c :: (head ++ write q)) = none := by
            refine question?_eq_none fun hc d hd => ?_
            cases head with
            | nil =>
                rw [List.nil_append, write, openTag_eq] at hd
                obtain rfl : '<' = d := by simpa using hd
                decide
            | cons e head =>
                obtain rfl : e = d := by simpa using hd
                exact (hfirst e rfl hc).1
          rw [List.cons_append, cut_cons hno, ihHead hrest]
          rfl

end Taming

end Prompt
end NoteTemplates
