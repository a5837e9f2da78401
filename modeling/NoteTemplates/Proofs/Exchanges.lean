import NoteTemplates.Proofs.AllOrNothing
import NoteTemplates.Proofs.Screens

/-!
# What is typed is what is used

A template asks for its variables first, then for its prompts, and each question is put again
as long as the lines typed at it are blank. An *exchange* is a question with the lines typed at
it; the exchanges of a run are cut out of the lines one after the other. So the answers are the
lines that are not blank, in their order, and what stands behind the last of them is not read.
If a read fails before all questions are answered, nothing more is asked and no file changes.

There are two inductions. The inner one is on the blank lines of one exchange, the outer one on
the questions; what holds of two lists of questions is put together by `Answered.append` and
`Answered.brokenOff`, once for the step from the variables to the prompts.
-/

namespace NoteTemplates

open Effect

namespace Markup

/-- A text in which no tag stands at any place. -/
def HasNoTags (s : Text) : Prop :=
  ∀ rest ∈ s.tails, findTag rest = none

instance (s : Text) : Decidable (HasNoTags s) :=
  inferInstanceAs (Decidable (∀ rest ∈ s.tails, findTag rest = none))

theorem cut_of_hasNoTags {s : Text} (h : HasNoTags s) :
    Text.cut findTag 0 s = s.map .plain := by
  induction s with
  | nil => rfl
  | cons c s ih =>
      have hrest : HasNoTags s := fun rest hmem => h rest (by simp [hmem])
      rw [Text.cut, h (c :: s) (by simp)]
      exact congrArg (.plain c :: ·) (ih hrest)

theorem foldr_cons_plain (c : Char) (s : Text) :
    ((c :: s).map Text.Piece.plain).foldr Segment.cons [] = [.plain (c :: s)] := by
  induction s generalizing c with
  | nil => rfl
  | cons d s ih =>
      rw [List.map_cons, List.foldr_cons, ih]
      rfl

theorem checkSpans_nil (shown : Text) : checkSpans shown [] = .ok () := by
  rw [checkSpans, List.reverse_nil, List.filter_nil, List.mergeSort_nil]
  rfl

/-- A text without tags is one stretch of plain text, but for reverse solidi before brackets. -/
theorem plain_of_hasNoTags {s : Text} (h : HasNoTags s) (screen : Screen) :
    plain screen s = .ok (drawn screen (Text.replaceAll "\\[" "[" s)) := by
  have hspans {p : Progress} (hread : readFrom screen 0 {} (segments s) = .ok p)
      (hnone : p.allSpans = []) : plain screen s = .ok p.shown := by
    rw [plain, hread]
    change (do (checkSpans p.shown p.allSpans).mapError Failure.number; pure p.shown) = _
    rw [hnone, checkSpans_nil]
    rfl
  have hsegments : segments s = (s.map .plain).foldr Segment.cons [] := by
    rw [segments, cut_of_hasNoTags h]
  cases s with
  | nil =>
      have hnothing : drawn screen (Text.replaceAll "\\[" "[" []) = [] :=
        congrArg visible (screen.pictures_eq_self (s := []) (by decide))
      rw [hnothing]
      exact hspans rfl rfl
  | cons c s =>
      rw [foldr_cons_plain] at hsegments
      exact hspans (by rw [hsegments]; rfl) rfl

end Markup

namespace Console

/-- A question without tags as the console shows it. -/
def shown (screen : Screen) (question : Text) : Text :=
  screen.layOut (Markup.drawn screen (Text.replaceAll "\\[" "[" question) ++ questionEnd)

theorem question_of_hasNoTags {q : Text} (h : Markup.HasNoTags q) (screen : Screen) :
    question screen q = .ok (shown screen q) := by
  rw [question, Markup.plain_of_hasNoTags h]
  rfl

/-- A question as often as a blank line was typed at it, each time with the notice. -/
def repeated (screen : Screen) (question : Text) (blanks : List Text) : Text :=
  blanks.flatMap fun _ =>
    shown screen question ++ (screen.layOut requiredNotice ++ Text.newline)

/-- How a read can fail: with a failure that is typed, or because nothing is left. -/
inductive ReadFails : Failure → List Reply → List Reply → Prop
  | typed (f : Failure) (rest : List Reply) : ReadFails f (.failure f :: rest) rest
  | exhausted : ReadFails exhausted [] []

end Console

/-- A question, the blank lines typed at it, and the line that answers it, which is not blank. -/
structure Exchange where
  question : Text
  blanks : List Text
  line : Text
  blank : ∀ b ∈ blanks, Text.strip b = []
  answered : Text.strip line ≠ []

namespace Exchange

/-- The lines of an exchange. -/
def replies (e : Exchange) : List Reply :=
  (e.blanks ++ [e.line]).map .line

/-- What the question is answered with. -/
def answer (e : Exchange) : Text :=
  Text.strip e.line

/-- What the console shows in an exchange. -/
def dialogue (screen : Screen) (e : Exchange) : Text :=
  Console.repeated screen e.question e.blanks ++ Console.shown screen e.question

end Exchange

/-- The lines before the first failure that are not blank, without white space at their ends. -/
def Reply.heard : List Reply → List Text
  | .line s :: replies =>
    if Text.strip s = [] then heard replies else Text.strip s :: heard replies
  | _ => []

section Heard

variable {blanks : List Text} {replies : List Reply}

theorem Reply.heard_blanks (h : ∀ b ∈ blanks, Text.strip b = []) (replies : List Reply) :
    heard (blanks.map .line ++ replies) = heard replies := by
  induction blanks with
  | nil => rfl
  | cons b blanks ih =>
      rw [List.map_cons, List.cons_append, heard, if_pos (h b (by simp))]
      exact ih fun b hb => h b (by simp [hb])

theorem Reply.heard_exchanges (exchanges : List Exchange) (replies : List Reply) :
    heard (exchanges.flatMap (·.replies) ++ replies) =
      exchanges.map (·.answer) ++ heard replies := by
  induction exchanges with
  | nil => rfl
  | cons e exchanges ih =>
      rw [List.flatMap_cons, Exchange.replies, List.map_append, List.append_assoc,
        List.append_assoc, heard_blanks e.blank, List.map_singleton, List.singleton_append,
        heard, if_neg e.answered, ih]
      rfl

theorem Console.ReadFails.heard {f : Failure} {left : List Reply}
    (h : ReadFails f replies left) : Reply.heard replies = [] := by
  cases h <;> rfl

/-- Replies are blank lines up to one that is not blank, or up to where a read fails. -/
theorem Reply.split (replies : List Reply) :
    ∃ blanks : List Text, ∃ tail, replies = blanks.map .line ++ tail ∧
      (∀ b ∈ blanks, Text.strip b = []) ∧
      ((∃ s rest, tail = .line s :: rest ∧ Text.strip s ≠ []) ∨
        ∃ f rest, Console.ReadFails f tail rest) := by
  induction replies with
  | nil => exact ⟨[], [], rfl, by simp, Or.inr ⟨_, _, .exhausted⟩⟩
  | cons reply replies ih =>
      cases reply with
      | failure f => exact ⟨[], _, rfl, by simp, Or.inr ⟨_, _, .typed f replies⟩⟩
      | line s =>
          by_cases hs : Text.strip s = []
          · obtain ⟨blanks, tail, hreplies, hblank, htail⟩ := ih
            refine ⟨s :: blanks, tail, by rw [hreplies]; rfl, ?_, htail⟩
            simpa [hs] using hblank
          · exact ⟨[], _, rfl, by simp, Or.inl ⟨s, replies, rfl, hs⟩⟩

end Heard

/-- A world after replies were read and something was shown. -/
def World.after (w : World) (replies : List Reply) (s : Text) : World :=
  { w with replies, printed := w.printed ++ s }

theorem World.after_after (w : World) (before replies : List Reply) (s t : Text) :
    (w.after before s).after replies t = w.after replies (s ++ t) := by
  simp [after]

namespace Console

section OneQuestion

variable {screen : Screen} {around : Surroundings} {w : World} {blanks : List Text}
  {question : Text}

theorem perform_askUntil_line {α : Type} (shown notice : Text)
    (judge : Text → Except Failure (Option α)) (s : Text) (replies : List Reply) :
    (askUntil shown notice judge (.line s :: replies)).perform around w =
      match judge (Text.strip s) with
      | .ok (some a) => (.ok a, w.after replies shown)
      | .ok none => (askUntil shown notice judge replies).perform around
          (w.after replies (shown ++ (notice ++ Text.newline)))
      | .error f => (.error f, w.after replies shown) := by
  simp only [askUntil, leave, print, perform_bind, perform_modify, perform_settle]
  cases judge (Text.strip s) with
  | error f => rfl
  | ok answer =>
      cases answer with
      | some a => rfl
      | none =>
          rw [← World.after_after]
          rfl

theorem perform_askUntil_of_readFails {α : Type} (shown notice : Text)
    (judge : Text → Except Failure (Option α)) {f : Failure} {tail rest : List Reply}
    (h : ReadFails f tail rest) (hw : w.replies = tail) :
    (askUntil shown notice judge tail).perform around w = (.error f, w.after rest shown) := by
  cases h with
  | typed f rest => rfl
  | exhausted =>
      have hafter : w.after [] shown = { w with printed := w.printed ++ shown } := by
        rw [World.after, ← hw]
      rw [hafter]
      rfl

/-- Asking shows the question on the screen that is there, or fails before anything is shown. -/
theorem perform_asking {α : Type} (question : Text) (notice : Screen → Text)
    (judge : Text → Except Failure (Option α)) (around : Surroundings) (w : World) :
    (do
      let screen := (← read).screen
      askUntil (← settle (Console.question screen question)) (notice screen) judge
        (← get).replies : Effect α).perform around w =
      match Console.question around.screen question with
      | .error f => (.error f, w)
      | .ok shown =>
        (askUntil shown (notice around.screen) judge w.replies).perform around w := by
  rw [perform_bind, perform_read]
  dsimp only
  rw [perform_bind, perform_settle]
  cases Console.question around.screen question <;> rfl

/-- What one read gives: a line without the white space at its ends, or why there is none. -/
def heardOnce : List Reply → Except Failure Text
  | [] => .error exhausted
  | .failure f :: _ => .error f
  | .line s :: _ => .ok (Text.strip s)

/-- Any line will do for an answer that may be empty, so one reply is taken. -/
theorem perform_askLine_once (question : Text) (around : Surroundings) (w : World) :
    (askLine question).perform around w =
      match Console.question around.screen question with
      | .error f => (.error f, w)
      | .ok shown => (heardOnce w.replies, w.after w.replies.tail shown) := by
  refine (perform_asking question (fun _ => []) _ around w).trans ?_
  cases Console.question around.screen question with
  | error f => rfl
  | ok shown =>
      obtain ⟨store, trail, replies, asked, started, printed, complaints, events, sample⟩ := w
      cases replies with
      | nil => rfl
      | cons reply replies => cases reply <;> rfl

/-- Each blank line is read, and the question put again behind a notice. -/
theorem perform_askUntil_blanks (h : ∀ b ∈ blanks, Text.strip b = []) {tail : List Reply}
    (hw : w.replies = blanks.map .line ++ tail) :
    (askUntil (shown screen question) (screen.layOut requiredNotice) judgeRequired
        (blanks.map .line ++ tail)).perform around w =
      (askUntil (shown screen question) (screen.layOut requiredNotice) judgeRequired
        tail).perform around (w.after tail (repeated screen question blanks)) := by
  induction blanks generalizing w with
  | nil =>
      obtain rfl : w.replies = tail := hw
      simp [World.after, repeated]
  | cons b blanks ih =>
      have hrest := ih (fun b hb => h b (by simp [hb]))
        (w := w.after (blanks.map .line ++ tail)
          (shown screen question ++ (screen.layOut requiredNotice ++ Text.newline))) rfl
      rw [List.map_cons, List.cons_append, perform_askUntil_line, h b (by simp)]
      refine hrest.trans ?_
      rw [World.after_after]
      rfl

theorem perform_askRequired (hfree : Markup.HasNoTags question) :
    (askRequired question).perform around w =
      (askUntil (shown around.screen question) (around.screen.layOut requiredNotice) judgeRequired
        w.replies).perform around w := by
  refine (perform_asking question (fun screen => screen.layOut requiredNotice) judgeRequired
    around w).trans ?_
  rw [question_of_hasNoTags hfree]

/-- An exchange that the replies begin with is had. -/
theorem perform_askRequired_of_answered (hfree : Markup.HasNoTags question)
    (h : ∀ b ∈ blanks, Text.strip b = []) {s : Text} (hs : Text.strip s ≠ [])
    {rest : List Reply} (hw : w.replies = blanks.map .line ++ .line s :: rest) :
    (askRequired question).perform around w =
      (.ok (Text.strip s), w.after rest
        (repeated around.screen question blanks ++ shown around.screen question)) := by
  rw [perform_askRequired hfree, hw, perform_askUntil_blanks h hw, perform_askUntil_line,
    judgeRequired, if_neg (by simpa using hs)]
  dsimp only
  rw [World.after_after]

/-- A question is put until a read fails. -/
theorem perform_askRequired_of_readFails (hfree : Markup.HasNoTags question)
    (h : ∀ b ∈ blanks, Text.strip b = []) {f : Failure} {tail rest : List Reply}
    (htail : ReadFails f tail rest) (hw : w.replies = blanks.map .line ++ tail) :
    (askRequired question).perform around w =
      (.error f, w.after rest
        (repeated around.screen question blanks ++ shown around.screen question)) := by
  rw [perform_askRequired hfree, hw, perform_askUntil_blanks h hw,
    perform_askUntil_of_readFails _ _ _ htail rfl, World.after_after]

end OneQuestion

end Console

section ManyQuestions

variable {screen : Screen} {around : Surroundings} {u v w : World} {f : Failure}
  {questions later : List Text} {exchanges further : List Exchange}

/-- All questions were answered, each in one exchange, and no file changed. -/
structure Answered (screen : Screen) (questions : List Text) (exchanges : List Exchange)
    (w v : World) : Prop where
  questions : exchanges.map (·.question) = questions
  replies : w.replies = exchanges.flatMap (·.replies) ++ v.replies
  printed : v.printed = w.printed ++ exchanges.flatMap (·.dialogue screen)
  history : v.history = w.history

/--
Some questions were answered, and at the next one a read failed; no other was asked, and no
file changed.
-/
inductive BrokenOff (screen : Screen) (questions : List Text) (w : World) (f : Failure)
    (v : World) : Prop
  | intro (exchanges : List Exchange) (question : Text) (later blanks : List Text)
      (tail : List Reply)
      (questions : questions = exchanges.map (·.question) ++ question :: later)
      (blank : ∀ b ∈ blanks, Text.strip b = [])
      (replies : w.replies = exchanges.flatMap (·.replies) ++ (blanks.map .line ++ tail))
      (fails : Console.ReadFails f tail v.replies)
      (printed : v.printed = w.printed ++ (exchanges.flatMap (·.dialogue screen) ++
        (Console.repeated screen question blanks ++ Console.shown screen question)))
      (history : v.history = w.history)

theorem Answered.nil (w : World) : Answered screen [] [] w w :=
  ⟨rfl, rfl, by simp, rfl⟩

theorem Answered.append {others : List Text} (h : Answered screen questions exchanges w v)
    (hothers : Answered screen others further v u) :
    Answered screen (questions ++ others) (exchanges ++ further) w u := by
  constructor
  · rw [List.map_append, h.questions, hothers.questions]
  · rw [h.replies, hothers.replies, List.flatMap_append, List.append_assoc]
  · rw [hothers.printed, h.printed, List.flatMap_append, List.append_assoc]
  · exact hothers.history.trans h.history

theorem Answered.brokenOff {others : List Text} (h : Answered screen questions exchanges w v)
    (hothers : BrokenOff screen others v f u) : BrokenOff screen (questions ++ others) w f u := by
  obtain ⟨further, question, later, blanks, tail, hquestions, hblank, hreplies, hfails,
    hprinted, hhistory⟩ := hothers
  refine ⟨exchanges ++ further, question, later, blanks, tail, ?_, hblank, ?_, hfails, ?_,
    hhistory.trans h.history⟩
  · rw [List.map_append, h.questions, hquestions, List.append_assoc]
  · rw [h.replies, hreplies, List.flatMap_append, List.append_assoc]
  · rw [hprinted, h.printed, List.flatMap_append, List.append_assoc, List.append_assoc]

/-- Questions that are never come to change nothing. -/
theorem BrokenOff.before (h : BrokenOff screen questions w f v) (others : List Text) :
    BrokenOff screen (questions ++ others) w f v := by
  obtain ⟨exchanges, question, later, blanks, tail, hquestions, hblank, hreplies, hfails,
    hprinted, hhistory⟩ := h
  refine ⟨exchanges, question, later ++ others, blanks, tail, ?_, hblank, hreplies,
    hfails, hprinted, hhistory⟩
  rw [hquestions, List.append_assoc, List.cons_append]

/-- One question is answered in one exchange, or a read fails at it. -/
theorem askRequired_cases {question : Text} (hfree : Markup.HasNoTags question)
    (around : Surroundings) (w : World) :
    (∃ e v, (Console.askRequired question).perform around w = (.ok e.answer, v) ∧
      Answered around.screen [question] [e] w v) ∨
    ∃ f v, (Console.askRequired question).perform around w = (.error f, v) ∧
      BrokenOff around.screen [question] w f v := by
  obtain ⟨blanks, tail, hreplies, hblank, ⟨s, rest, rfl, hs⟩ | ⟨f, rest, hfails⟩⟩ :=
    Reply.split w.replies
  · left
    refine ⟨⟨question, blanks, s, hblank, hs⟩, _,
      Console.perform_askRequired_of_answered hfree hblank hs hreplies, rfl, ?_, ?_, rfl⟩
    · simpa [Exchange.replies, World.after] using hreplies
    · simp [Exchange.dialogue, World.after]
  · right
    refine ⟨f, _, Console.perform_askRequired_of_readFails hfree hblank hfails hreplies,
      [], question, [], blanks, tail, rfl, hblank, hreplies, hfails, rfl, rfl⟩

namespace Notebook

/-- By induction on the questions: all are answered in order, or a read fails at one of them. -/
theorem askQuestions_cases (hfree : ∀ q ∈ questions, Markup.HasNoTags q)
    (around : Surroundings) (w : World) :
    (∃ exchanges v, (askQuestions .required questions).perform around w =
        (.ok (exchanges.map (·.answer)), v) ∧ Answered around.screen questions exchanges w v) ∨
    ∃ f v, (askQuestions .required questions).perform around w = (.error f, v) ∧
      BrokenOff around.screen questions w f v := by
  induction questions generalizing w with
  | nil => exact Or.inl ⟨[], w, rfl, .nil w⟩
  | cons question questions ih =>
      rw [askQuestions, perform_bind]
      rcases askRequired_cases (hfree question (by simp)) around w with
        ⟨e, v, hasked, he⟩ | ⟨f, v, hasked, hbroken⟩
      · have hasked : (Reader.required.ask question).perform around w = _ := hasked
        rw [hasked]
        dsimp only
        rw [perform_bind]
        rcases ih (fun q hq => hfree q (by simp [hq])) v with
          ⟨exchanges, u, hrest, hanswered⟩ | ⟨f, u, hrest, hbroken⟩
        · rw [hrest]
          exact Or.inl ⟨e :: exchanges, u, rfl, he.append hanswered⟩
        · rw [hrest]
          exact Or.inr ⟨f, u, rfl, he.brokenOff hbroken⟩
      · have hasked : (Reader.required.ask question).perform around w = _ := hasked
        rw [hasked]
        exact Or.inr ⟨f, v, rfl, hbroken.before questions⟩

/-- Variables are asked for as questions are, and their names kept. -/
theorem perform_askVariables (r : Reader) (vs : List Variable) (around : Surroundings)
    (w : World) :
    (askVariables r vs).perform around w =
      match (askQuestions r (vs.map (·.question))).perform around w with
      | (.ok answers, v) => (.ok ((vs.map (·.name)).zip answers), v)
      | (.error f, v) => (.error f, v) := by
  induction vs generalizing w with
  | nil => rfl
  | cons v vs ih =>
      rw [askVariables, List.map_cons, askQuestions, perform_bind, perform_bind]
      cases (r.ask v.question).perform around w with
      | mk result u =>
          cases result with
          | error f => rfl
          | ok value =>
              dsimp only
              rw [perform_bind, perform_bind, ih]
              cases (askQuestions r (vs.map (·.question))).perform around u with
              | mk result x => cases result <;> rfl

end Notebook

theorem Answered.of_noted {e : Log.Event}
    (h : Answered screen questions exchanges (w.noted e) v) :
    Answered screen questions exchanges w v :=
  ⟨h.questions, h.replies, h.printed, h.history⟩

theorem Answered.noted (h : Answered screen questions exchanges w v) (e : Log.Event) :
    Answered screen questions exchanges w (v.noted e) :=
  ⟨h.questions, h.replies, h.printed, h.history⟩

theorem BrokenOff.of_noted {e : Log.Event} (h : BrokenOff screen questions (w.noted e) f v) :
    BrokenOff screen questions w f v := by
  obtain ⟨exchanges, question, later, blanks, tail, hquestions, hblank, hreplies, hfails,
    hprinted, hhistory⟩ := h
  exact ⟨exchanges, question, later, blanks, tail, hquestions, hblank, hreplies, hfails,
    hprinted, hhistory⟩

/-- What is heard until all questions are answered is the answers, before anything that is left. -/
theorem Answered.heard (h : Answered screen questions exchanges w v) :
    Reply.heard w.replies = exchanges.map (·.answer) ++ Reply.heard v.replies := by
  rw [h.replies, Reply.heard_exchanges]

theorem Answered.length_eq (h : Answered screen questions exchanges w v) :
    exchanges.length = questions.length := by
  rw [← h.questions, List.length_map]

/-- Too little was heard if a read failed. -/
theorem BrokenOff.length_lt (h : BrokenOff screen questions w f v) :
    (Reply.heard w.replies).length < questions.length := by
  obtain ⟨exchanges, question, later, blanks, tail, hquestions, hblank, hreplies, hfails,
    -, -⟩ := h
  rw [hreplies, Reply.heard_exchanges, Reply.heard_blanks hblank, hfails.heard, hquestions]
  simp

end ManyQuestions

/-- The questions of a template in the order in which they are asked. -/
def Template.asks (t : Template) : List Text :=
  t.declared.map (·.question) ++ t.questions

namespace Notebook

variable (book : Notebook)

/-- What follows the questions: the note is rendered, written, and opened if that is wanted. -/
def complete (t : Template) (values : Bindings) (answers : List Text)
    (openEditor calledOff : Bool) (now : Option Moment) : Effect Path := do
  let (content, target) ← book.render t values answers now
  if openEditor then
    Materialization.createAndOpen content target (← book.editor) calledOff
  else Materialization.create content target calledOff

/-- Nothing is asked or shown behind the questions. -/
theorem silent_complete (t : Template) (values : Bindings) (answers : List Text)
    (openEditor calledOff : Bool) (now : Option Moment) :
    Silent Failure.IsOwn (book.complete t values answers openEditor calledOff now) := by
  refine silent_bind (book.calm_render t values answers now).silent fun (content, target) => ?_
  have hcreate := Materialization.silent_create content target calledOff
  cases openEditor with
  | false => exact hcreate
  | true =>
      refine silent_bind book.calm_editor.silent fun editor => ?_
      refine silent_bind hcreate fun created => ?_
      refine silent_bind ((Editor.calm_openFile _ _).silent.mono fun _ h => h.isOwn) fun _ => ?_
      exact silent_pure _

variable {book} {t : Template} {around : Surroundings} {w : World}

theorem collect_cases (hreader : book.reader = .required)
    (hfree : ∀ q ∈ t.asks, Markup.HasNoTags q) (around : Surroundings) (w : World) :
    (∃ exchanges v, (book.collect t).perform around w =
        (.ok ((t.declared.map (·.name)).zip (exchanges.map (·.answer)),
          (exchanges.map (·.answer)).drop t.declared.length), v) ∧
      Answered around.screen t.asks exchanges w v) ∨
    ∃ f v, (book.collect t).perform around w = (.error f, v) ∧
      BrokenOff around.screen t.asks w f v := by
  rw [collect, hreader, perform_bind, perform_askVariables]
  rcases askQuestions_cases (fun q hq => hfree q (List.mem_append_left _ hq)) around w with
    ⟨first, v, hasked, hfirst⟩ | ⟨f, v, hasked, hbroken⟩
  · rw [hasked]
    simp only [perform_bind, perform_note]
    rcases askQuestions_cases (fun q hq => hfree q (List.mem_append_right _ hq)) around _ with
      ⟨second, u, hrest, hsecond⟩ | ⟨f, u, hrest, hbroken⟩
    · left
      have hlength : first.length = t.declared.length := by
        rw [hfirst.length_eq, List.length_map]
      have hvalues : (t.declared.map (·.name)).zip ((first ++ second).map (·.answer)) =
          (t.declared.map (·.name)).zip (first.map (·.answer)) := by
        have hnames := (List.append_nil (t.declared.map fun v => v.name)).symm
        conv_lhs => rw [hnames, List.map_append, List.zip_append (by simp [hlength])]
        rw [List.zip_nil_left, List.append_nil]
      have hanswers : ((first ++ second).map (·.answer)).drop t.declared.length =
          second.map (·.answer) := by
        rw [List.map_append, ← hlength]
        simp
      rw [hrest, ← hvalues, ← hanswers]
      exact ⟨first ++ second, _, rfl, (hfirst.append hsecond.of_noted).noted _⟩
    · right
      rw [hrest]
      exact ⟨f, u, rfl, hfirst.brokenOff hbroken.of_noted⟩
  · right
    rw [hasked]
    exact ⟨f, v, rfl, hbroken.before _⟩

/-- The note of a template with a target is the questions and what follows them. -/
theorem perform_createNote (htarget : t.hasTarget = true) (openEditor calledOff : Bool)
    (now : Option Moment) :
    (book.createNote t openEditor calledOff now).perform around w =
      match (book.collect t).perform around (w.noted
          { level := .info, source := .notebook, message := "Creating note from template"
            values := [("template", .text t.filename)] }) with
      | (.ok (values, answers), v) =>
          (book.complete t values answers openEditor calledOff now).perform around v
      | (.error f, v) => (.error f, v) := by
  rw [createNote, perform_bind, prepare]
  simp only [htarget, Bool.not_true, Bool.false_eq_true, if_false, perform_bind, perform_note]
  cases (book.collect t).perform around _ with
  | mk result v =>
      cases result with
      | error f => rfl
      | ok collected =>
          obtain ⟨values, answers⟩ := collected
          dsimp only
          rw [complete, perform_bind]

/--
What is typed is what is used, in order. The questions of a template are asked one after the
other, and the first lines that are not blank are their answers, without the white space at
their ends. Where there are enough of them, the rest of the run goes on with these values, and
reads and shows nothing more; a question is repeated behind a notice for each blank line typed
at it, and the lines behind the last answer are left. Where there are not, the read that
fails ends the run; no further question is asked, and the file system is as it was.
-/
theorem createNote_uses_what_is_typed (hreader : book.reader = .required)
    (htarget : t.hasTarget = true) (hfree : ∀ q ∈ t.asks, Markup.HasNoTags q)
    (openEditor calledOff : Bool) (now : Option Moment) (around : Surroundings) (w : World) :
    let run := (book.createNote t openEditor calledOff now).perform around w
    let heard := Reply.heard w.replies
    let answers := heard.take t.asks.length
    (t.asks.length ≤ heard.length →
      ∃ exchanges v, Answered around.screen t.asks exchanges w v ∧
        exchanges.map (·.answer) = answers ∧
        run = (book.complete t ((t.declared.map (·.name)).zip answers)
          (answers.drop t.declared.length) openEditor calledOff now).perform around v ∧
        run.2.talk = v.talk) ∧
    (heard.length < t.asks.length →
      ∃ f, run.1 = .error f ∧ BrokenOff around.screen t.asks w f run.2) := by
  intro run heard answers
  have hrun : run = _ := perform_createNote htarget openEditor calledOff now
  rcases collect_cases hreader hfree around _ with
    ⟨exchanges, v, hcollected, hanswered⟩ | ⟨f, v, hcollected, hbroken⟩
  · rw [hcollected] at hrun
    dsimp only at hrun
    have hall := hanswered.of_noted
    have hheard : heard = exchanges.map (·.answer) ++ Reply.heard v.replies := hall.heard
    have hlength : (exchanges.map (·.answer)).length = t.asks.length := by
      rw [List.length_map, hall.length_eq]
    have hanswers : exchanges.map (·.answer) = answers := by
      rw [show answers = heard.take t.asks.length from rfl, hheard, ← hlength, List.take_left]
    refine ⟨fun _ => ⟨exchanges, v, hall, hanswers, ?_, ?_⟩, fun hless => ?_⟩
    · rw [hrun, hanswers]
    · rw [hrun]
      exact (book.silent_complete t _ _ openEditor calledOff now around v).1
    · rw [hheard, List.length_append] at hless
      omega
  · rw [hcollected] at hrun
    have hless := hbroken.of_noted.length_lt
    refine ⟨fun henough => absurd hless (Nat.not_lt.mpr henough), fun _ => ⟨f, ?_, ?_⟩⟩
    · rw [hrun]
    · rw [hrun]
      exact hbroken.of_noted

/-- A template that asks for one variable and has two prompts. -/
def asking : Template :=
  { leadingTo "/n/x" with
    body := "n = <prompt>N?</prompt>\n\x7b$n\x7d <prompt>Q?</prompt>"
    declared := [⟨"n", "N?"⟩]
    questions := ["N?", "Q?"] }

/-- Lines of which two are blank and one is left over. -/
def typed : World :=
  { store := {}
    replies := ([" ", "Ann ", "tea", "", "x", "more"] : List Text).map .line }

theorem createNote_uses_what_is_typed_blank_lines :
    let run := (plain.createNote asking false false none).perform .plain typed
    plain.reader = .required ∧ asking.hasTarget = true ∧
      (∀ q ∈ asking.asks, Markup.HasNoTags q) ∧
      (∃ v, run = (plain.complete asking [("n", "Ann")] ["tea", "x"] false false none).perform
        .plain v) ∧
      run.1 = .ok (Path.ofText "/n/x") ∧ run.2.replies = [.line "more"] ∧
      run.2.printed = ("N?: Input required, please try again.\nN?: N?: " ++
        "Q?: Input required, please try again.\nQ?: ").toList := by
  intro run
  have hreader : plain.reader = .required := rfl
  have htarget : asking.hasTarget = true := by decide
  have hfree : ∀ q ∈ asking.asks, Markup.HasNoTags q := by decide
  have hanswers : (Reply.heard typed.replies).take asking.asks.length =
      (["Ann", "tea", "x"] : List Text) := by decide +kernel
  have huses := createNote_uses_what_is_typed hreader htarget hfree false false none .plain typed
  dsimp only at huses
  rw [hanswers] at huses
  obtain ⟨exchanges, v, -, -, hrun, -⟩ := huses.1 (by decide +kernel)
  exact ⟨hreader, htarget, hfree, ⟨v, hrun⟩, by decide +kernel, by decide +kernel,
    by decide +kernel⟩

end Notebook

end NoteTemplates
