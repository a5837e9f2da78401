import NoteTemplates.Proofs.Prompts

/-!
# Reading and answering see the same prompts

A text has one layout: what stands before its first prompt, and each prompt with what stands
between it and the next. Every prompt is a question on one line between its tags, none begins
earlier than the next one of the layout, and none is left behind the last. The questions of a
text are those of its layout, and answers replace its prompts from the first on: an answer
goes in as it is, a prompt without an answer stays as it is, and an answer without a prompt
goes nowhere.

The layout is said without the scan that finds it. `IsLayout.layOut_eq` is the induction that
leads from the one to the other.
-/

namespace NoteTemplates
namespace Prompt

/-- A text begins with a whole prompt. -/
def Begins (s : Text) : Prop :=
  ∃ q rest, s = write q ++ rest ∧ IsQuestion q

/--
A text put together from a first stretch without prompts and, behind it, questions each with
the stretch that follows its prompt. A prompt stands at the leftmost place behind the one
before it at which a whole prompt begins, and none is in the stretch behind the last.
-/
inductive IsLayout : Text → Text → List (Text × Text) → Prop
  | last {head : Text} (clear : ∀ q, IsQuestion q → ¬ write q <:+: head) :
      IsLayout head head []
  | prompt {head q rest next : Text} {pairs : List (Text × Text)} (question : IsQuestion q)
      (leftmost : ∀ before behind, head = before ++ behind → behind ≠ [] →
        ¬ Begins (behind ++ (write q ++ rest)))
      (further : IsLayout rest next pairs) :
      IsLayout (head ++ (write q ++ rest)) head ((q, next) :: pairs)

/-- Each question replaced by the answer at its position, or by its prompt if there is none. -/
def replaced (pairs : List (Text × Text)) (answers : List Text) : List (Text × Text) :=
  pairs.mapIdx fun i (q, next) => (answers[i]?.getD (write q), next)

section Laying

variable {s head q rest next : Text} {c : Char} {pairs : List (Text × Text)}

theorem begins_iff : Begins s ↔ ∃ q, question? s = some q := by
  simp only [question?_eq_some]
  exact Iff.rfl

theorem question?_eq_none_iff : question? s = none ↔ ¬ Begins s := by
  rw [begins_iff, Option.eq_none_iff_forall_ne_some, not_exists]

/-- A text holds no prompt if none begins at any place of it. -/
theorem clear_iff :
    (∀ q, IsQuestion q → ¬ write q <:+: s) ↔
      ∀ before behind, s = before ++ behind → ¬ Begins behind := by
  constructor
  · rintro h before behind rfl ⟨q, rest, rfl, hq⟩
    exact h q hq ⟨before, rest, by rw [List.append_assoc]⟩
  · rintro h q hq ⟨before, rest, hs⟩
    exact h before (write q ++ rest) (by rw [← hs, List.append_assoc]) ⟨q, rest, rfl, hq⟩

theorem not_begins_nil : ¬ Begins [] := by
  rintro ⟨q, rest, hnil, -⟩
  exact write_ne_nil q (List.append_eq_nil_iff.mp hnil.symm).1

theorem layOut_write (hq : IsQuestion q) (rest : Text) :
    layOut (write q ++ rest) = ([], (q, (layOut rest).1) :: (layOut rest).2) := by
  rw [layOut, cut_write hq]
  rfl

theorem layOut_cons (h : ¬ Begins (c :: s)) :
    layOut (c :: s) = (c :: (layOut s).1, (layOut s).2) := by
  rw [layOut, cut_cons (question?_eq_none_iff.mpr h)]
  rfl

/-- A stretch in which no prompt begins belongs to the first stretch of the layout. -/
theorem layOut_append (h : ∀ before behind, head = before ++ behind → behind ≠ [] →
      ¬ Begins (behind ++ s)) :
    layOut (head ++ s) = (head ++ (layOut s).1, (layOut s).2) := by
  induction head with
  | nil => rfl
  | cons c head ih =>
      have hfirst : ¬ Begins (c :: (head ++ s)) := h [] (c :: head) rfl (by simp)
      have hrest : layOut (head ++ s) = (head ++ (layOut s).1, (layOut s).2) := by
        refine ih fun before behind hhead hne => ?_
        exact h (c :: before) behind (by rw [hhead, List.cons_append]) hne
      rw [List.cons_append, layOut_cons hfirst, hrest, List.cons_append]

/-- One more character at which no prompt begins. -/
theorem IsLayout.cons (hlayout : IsLayout s head pairs) (h : ¬ Begins (c :: s)) :
    IsLayout (c :: s) (c :: head) pairs := by
  cases hlayout with
  | last clear =>
      refine .last (clear_iff.mpr fun before behind hhead => ?_)
      cases before with
      | nil =>
          rw [List.nil_append] at hhead
          rwa [← hhead]
      | cons d before => exact clear_iff.mp clear before behind (List.cons.inj hhead).2
  | prompt question leftmost further =>
      rw [← List.cons_append]
      refine .prompt question (fun before behind hhead hne => ?_) further
      cases before with
      | nil =>
          rw [List.nil_append] at hhead
          rwa [← hhead, List.cons_append]
      | cons d before => exact leftmost before behind (List.cons.inj hhead).2 hne

/-- The layout that the scan finds is one. -/
theorem isLayout_layOut (s : Text) : IsLayout s (layOut s).1 (layOut s).2 := by
  induction s using cut_induction with
  | nil =>
      refine .last (clear_iff.mpr fun before behind hnil => ?_)
      rw [(List.append_eq_nil_iff.mp hnil.symm).2]
      exact not_begins_nil
  | found q rest hq ih =>
      rw [layOut_write hq, ← List.nil_append (write q ++ rest)]
      refine .prompt hq (fun before behind hnil hne => ?_) ih
      exact absurd (List.append_eq_nil_iff.mp hnil.symm).2 hne
  | plain c s hno ih =>
      have hno := question?_eq_none_iff.mp hno
      rw [layOut_cons hno]
      exact ih.cons hno

/-- There is no other layout, by induction along the prompts. -/
theorem IsLayout.layOut_eq (h : IsLayout s head pairs) : layOut s = (head, pairs) := by
  induction h with
  | @last head clear =>
      have hhead : layOut (head ++ []) = (head ++ (layOut []).1, (layOut []).2) :=
        layOut_append fun before behind hhead _ => by
          rw [List.append_nil]
          exact clear_iff.mp clear before behind hhead
      rw [List.append_nil] at hhead
      rw [hhead]
      exact congrArg (·, []) (List.append_nil head)
  | @prompt head q rest next pairs question leftmost further ih =>
      rw [layOut_append leftmost, layOut_write question, ih, List.append_nil]

end Laying

section Replacing

variable {q next given : Text} {pairs : List (Text × Text)} {answers : List Text}

theorem replaced_cons_nil :
    replaced ((q, next) :: pairs) [] = (write q, next) :: replaced pairs [] := by
  simp [replaced, List.mapIdx_cons]

theorem replaced_cons_cons :
    replaced ((q, next) :: pairs) (given :: answers) =
      (given, next) :: replaced pairs answers := by
  simp [replaced, List.mapIdx_cons]

/-- Without answers all prompts stay. -/
theorem replaced_nil (pairs : List (Text × Text)) : replaced pairs [] = asPrompts pairs := by
  induction pairs with
  | nil => rfl
  | cons pair pairs ih => rw [replaced_cons_nil, ih, asPrompts, asPrompts, List.map_cons]

/-- Filling in answers replaces the questions of the pieces. -/
theorem fill_eq_weave (pieces : List (Text.Piece Text)) (answers : List Text) :
    fill pieces answers = weave (stretches pieces).1 (replaced (stretches pieces).2 answers) := by
  induction pieces generalizing answers with
  | nil => rfl
  | cons piece pieces ih =>
      cases piece with
      | plain c =>
          rw [fill, ih]
          rfl
      | found q =>
          cases answers with
          | nil =>
              rw [fill, ih, stretches, replaced_cons_nil, weave_cons, List.nil_append]
          | cons given answers =>
              rw [fill, ih, stretches, replaced_cons_cons, weave_cons, List.nil_append]

theorem answer_eq_weave (s : Text) (answers : List Text) :
    answer s answers = weave (layOut s).1 (replaced (layOut s).2 answers) :=
  fill_eq_weave (cut s) answers

/-- Answers beyond the prompts are passed over. -/
theorem replaced_take (pairs : List (Text × Text)) (answers : List Text) :
    replaced pairs (answers.take pairs.length) = replaced pairs answers := by
  induction pairs generalizing answers with
  | nil => rfl
  | cons pair pairs ih =>
      cases answers with
      | nil => rfl
      | cons given answers =>
          rw [List.length_cons, List.take_succ_cons, replaced_cons_cons, ih, replaced_cons_cons]

/-- The prompts behind the last answer stay. -/
theorem replaced_of_length_le (h : answers.length ≤ pairs.length) :
    replaced pairs answers =
      answered pairs answers ++ asPrompts (pairs.drop answers.length) := by
  induction pairs generalizing answers with
  | nil =>
      obtain rfl : answers = [] := List.length_eq_zero_iff.mp (Nat.le_zero.mp h)
      rfl
  | cons pair pairs ih =>
      cases answers with
      | nil => exact replaced_nil (pair :: pairs)
      | cons given answers =>
          rw [replaced_cons_cons, ih (by simpa using h)]
          rfl

/-- Prompts as answers stay what they are. -/
theorem replaced_write (pairs : List (Text × Text)) :
    replaced pairs (pairs.map fun pair => write pair.1) = asPrompts pairs := by
  induction pairs with
  | nil => rfl
  | cons pair pairs ih =>
      rw [List.map_cons, replaced_cons_cons, ih, asPrompts, asPrompts, List.map_cons]

/--
A text has exactly one layout, and it is what both reading and answering go by. The text is put
together from it, and the questions that are read are its questions, in their order. Answering
puts every answer as it is in the stead of the prompt at its position and leaves the other
prompts as they are, so the stretches between the prompts are those of the text whatever the
answers hold. Answers beyond the prompts change nothing, the prompts behind the last answer
stay, and a text whose prompts are answered by themselves stays as it is.
-/
theorem reads_and_answers_one_layout (s : Text) :
    ∃ head pairs,
      IsLayout s head pairs ∧
      (∀ head' pairs', IsLayout s head' pairs' → head' = head ∧ pairs' = pairs) ∧
      s = weave head (asPrompts pairs) ∧
      questions s = pairs.map (·.1) ∧
      (∀ answers, answer s answers =
        weave head (pairs.mapIdx fun i (q, next) => (answers[i]?.getD (write q), next))) ∧
      (∀ answers, answer s answers = answer s (answers.take pairs.length)) ∧
      (∀ answers : List Text, answers.length ≤ pairs.length →
        answer s answers = weave head
          (answers.zip (pairs.map (·.2)) ++ asPrompts (pairs.drop answers.length))) ∧
      answer s (pairs.map fun pair => write pair.1) = s := by
  have hweave : weave (layOut s).1 (asPrompts (layOut s).2) = s := weave_layOut s
  refine ⟨(layOut s).1, (layOut s).2, isLayout_layOut s, fun head' pairs' h => ?_, hweave.symm,
    questions_eq s, answer_eq_weave s, fun answers => ?_, fun answers hlength => ?_, ?_⟩
  · exact Prod.ext_iff.mp h.layOut_eq.symm
  · rw [answer_eq_weave, answer_eq_weave, replaced_take]
  · rw [answer_eq_weave, replaced_of_length_le hlength, answered]
  · rw [answer_eq_weave, replaced_write, hweave]

/-- An unclosed tag before a prompt belongs to the question, and an answer is not read again. -/
example :
    questions "a <prompt> b\n<prompt>x<prompt>y</prompt></prompt>" = ["x<prompt>y".toList] ∧
      answer "<prompt>A</prompt><prompt>B</prompt>" ["<prompt>x</prompt>"] =
        "<prompt>x</prompt><prompt>B</prompt>" := by
  decide

end Replacing

end Prompt
end NoteTemplates
