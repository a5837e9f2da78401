import NoteTemplates.Proofs.Numerals
import NoteTemplates.Proofs.Rounds

/-!
# Choosing by number

Who is asked for a number between two bounds may type anything. The lines up to the first that
is empty or a numeral between the bounds are passed over, with a notice each, and that line is
the choice; where there is no such line, the asking ends with the failure of the read. This
holds as long as the asking does not stumble. It stumbles over a false numeral, which is taken
for a number and then cannot be read as one; and over any line that will not do, if a bound has
too many digits to be written in the notice.

`judgeChoice_eq` is the step: a line over which the asking does not stumble is judged as it
picks. The run follows by `hear_append`.
-/

namespace NoteTemplates

open Effect

namespace Console

/-- What a line picks: nothing if it is empty, its number if that is between the bounds. -/
def picks? (low high : Int) (line : Text) : Option (Option Int) :=
  if Text.strip line = [] then some none
  else
    match Text.numeral? (Text.strip line) with
    | some n => if low ≤ n ∧ n ≤ high then some (some n) else none
    | none => none

/--
How asking for a number should end, from replies to what is heard: with the choice of the first
line that picks one, or, if there is none, with the failure of a read.
-/
inductive Settles (low high : Int) : List Reply → Hearing (Option Int) → Prop
  | picked (lines : List Text) {s : Text} {choice : Option Int} {left : List Reply}
      (passed : ∀ t ∈ lines, picks? low high t = none)
      (picks : picks? low high s = some choice) :
      Settles low high (lines.map .line ++ .line s :: left) ⟨.ok choice, lines.length, left⟩
  | unread (lines : List Text) {f : Failure} {tail left : List Reply}
      (passed : ∀ t ∈ lines, picks? low high t = none) (fails : ReadFails f tail left) :
      Settles low high (lines.map .line ++ tail) ⟨.error f, lines.length, left⟩

/--
A line over which asking stumbles, with what is said then: a false numeral, or else one that
picks nothing when the bounds cannot be written.
-/
inductive StumblesOver (low high : Int) (line : Text) : NumberError → Prop
  | numeral {e : NumberError} (isFalse : (Text.strip line).IsFalseNumeral)
      (refuses : Text.Refuses (Text.strip line) e) : StumblesOver low high line e
  | notice (isTrue : ¬ (Text.strip line).IsFalseNumeral) (passed : picks? low high line = none)
      (unwritable : (Text.isWritable low && Text.isWritable high) = false) :
      StumblesOver low high line .unwritable

/-- A line over which asking stumbles stands behind lines that pick nothing, so it is come to. -/
def Stumbles (low high : Int) (replies : List Reply) : Prop :=
  ∃ lines s left e, replies = List.map Reply.line lines ++ .line s :: left ∧
    (∀ t ∈ lines, picks? low high t = none) ∧ StumblesOver low high s e

/-- If the bounds can be written, asking stumbles over false numerals only. -/
theorem stumblesOver_iff_of_isWritable {low high : Int} {line : Text}
    (hlow : Text.isWritable low = true) (hhigh : Text.isWritable high = true) :
    (∃ e, StumblesOver low high line e) ↔ (Text.strip line).IsFalseNumeral := by
  constructor
  · rintro ⟨e, hstumbles⟩
    cases hstumbles with
    | numeral isFalse refuses => exact isFalse
    | notice isTrue passed unwritable =>
        rw [hlow, hhigh] at unwritable
        cases unwritable
  · intro h
    obtain ⟨e, -, hrefuses⟩ := h.refuses
    exact ⟨e, .numeral h hrefuses⟩

section Judging

variable {low high : Int} {replies : List Reply}

/-- A line that is no false numeral is judged as it picks, or passed over. -/
theorem judgeChoice_of_not_isFalseNumeral {line : Text}
    (h : ¬ (Text.strip line).IsFalseNumeral) :
    judgeChoice low high (Text.strip line) =
      match picks? low high line with
      | some choice => .ok (some choice)
      | none => passOver low high := by
  rw [judgeChoice, picks?]
  split
  · rename_i hempty
    rw [if_pos (List.isEmpty_iff.mp hempty)]
  · rename_i hempty
    have hne : Text.strip line ≠ [] := fun hnil => hempty (List.isEmpty_iff.mpr hnil)
    rw [if_neg hne]
    split
    · rename_i hdigits
      have hdigits : ∀ c ∈ Text.strip line, Text.isDigit c = true := List.all_eq_true.mp hdigits
      have hdecimal : ∀ c ∈ Text.strip line, Text.isDecimal c = true := by
        by_contra hno
        push Not at hno
        obtain ⟨c, hc, hno⟩ := hno
        exact h ⟨hne, hdigits, Or.inl ⟨c, hc, by simpa using hno⟩⟩
      have hlength : (Text.strip line).length ≤ Text.digitLimit := by
        by_contra hlong
        exact h ⟨hne, hdigits, Or.inr (Nat.not_le.mp hlong)⟩
      have hnumeral := Text.numeral?_eq_some.mpr ⟨hne, hdecimal, rfl⟩
      rw [hnumeral, Text.readInt_of_numeral? hnumeral hlength]
      dsimp only
      split <;> rfl
    · rename_i hdigits
      obtain ⟨c, hc, hno⟩ : ∃ c ∈ Text.strip line, Text.isDigit c = false := by
        rw [List.all_eq_true] at hdigits
        push Not at hdigits
        obtain ⟨c, hc, hno⟩ := hdigits
        exact ⟨c, hc, by simpa using hno⟩
      rw [Text.numeral?_eq_none_of_not_isDigit ⟨c, hc, hno⟩]

/-- A line over which asking does not stumble is judged as it picks. -/
theorem judgeChoice_eq {line : Text} (h : ∀ e, ¬ StumblesOver low high line e) :
    judgeChoice low high (Text.strip line) = .ok (picks? low high line) := by
  have htrue : ¬ (Text.strip line).IsFalseNumeral := by
    intro hfalse
    obtain ⟨e, -, hrefuses⟩ := hfalse.refuses
    exact h e (.numeral hfalse hrefuses)
  rw [judgeChoice_of_not_isFalseNumeral htrue]
  cases hpicks : picks? low high line with
  | some choice => rfl
  | none =>
      have hwritable : (Text.isWritable low && Text.isWritable high) = true := by
        by_contra hno
        exact h _ (.notice htrue hpicks (by simpa using hno))
      exact if_pos hwritable

/-- A line over which asking stumbles is judged by what is said then. -/
theorem exists_judgeChoice_eq_error {line : Text} {e : NumberError}
    (h : StumblesOver low high line e) :
    ∃ e, StumblesOver low high line e ∧
      judgeChoice low high (Text.strip line) = .error (.number e) := by
  cases h with
  | numeral isFalse refuses =>
      obtain ⟨e, hread, hrefuses⟩ := isFalse.refuses
      refine ⟨e, .numeral isFalse hrefuses, ?_⟩
      have hne : ¬ (Text.strip line).isEmpty = true :=
        fun hempty => isFalse.nonempty (List.isEmpty_iff.mp hempty)
      rw [judgeChoice, if_neg hne, if_pos (List.all_eq_true.mpr isFalse.isDigit), hread]
  | notice isTrue passed unwritable =>
      refine ⟨.unwritable, .notice isTrue passed unwritable, ?_⟩
      rw [judgeChoice_of_not_isFalseNumeral isTrue, passed]
      exact if_neg (by simp [unwritable])

/-- One more line in front that picks nothing. -/
theorem Settles.later {s : Text} {h : Hearing (Option Int)} (hpicks : picks? low high s = none)
    (hsettles : Settles low high replies h) :
    Settles low high (.line s :: replies) (h.later 1) := by
  have hfront {lines : List Text} (hpassed : ∀ t ∈ lines, picks? low high t = none) :
      ∀ t ∈ s :: lines, picks? low high t = none :=
    List.forall_mem_cons.mpr ⟨hpicks, hpassed⟩
  cases hsettles with
  | picked lines passed picks =>
      rw [Hearing.later, Nat.add_comm]
      exact .picked (s :: lines) (hfront passed) picks
  | unread lines passed fails =>
      rw [Hearing.later, Nat.add_comm]
      exact .unread (s :: lines) (hfront passed) fails

/-- What is heard if nothing makes the asking stumble, by induction on the replies. -/
theorem settles_hear (h : ¬ Stumbles low high replies) :
    Settles low high replies (hear (judgeChoice low high) replies) := by
  induction replies with
  | nil => exact .unread [] (by simp) .exhausted
  | cons reply replies ih =>
      cases reply with
      | failure f => exact .unread [] (by simp) (.typed f replies)
      | line s =>
          have hs : ∀ e, ¬ StumblesOver low high s e :=
            fun e hs => h ⟨[], s, replies, e, rfl, by simp, hs⟩
          rw [hear, judgeChoice_eq hs]
          cases hpicks : picks? low high s with
          | some choice => exact .picked [] (by simp) hpicks
          | none =>
              refine (ih ?_).later hpicks
              rintro ⟨lines, t, left, e, rfl, hpassed, ht⟩
              refine h ⟨s :: lines, t, left, e, rfl, ?_, ht⟩
              exact List.forall_mem_cons.mpr ⟨hpicks, hpassed⟩

/-- Before the first line that makes the asking stumble there is none. -/
theorem Stumbles.first (h : Stumbles low high replies) :
    ∃ lines s left e, replies = List.map Reply.line lines ++ .line s :: left ∧
      (∀ t ∈ lines, picks? low high t = none ∧ ∀ e, ¬ StumblesOver low high t e) ∧
      StumblesOver low high s e := by
  obtain ⟨lines, s, left, e, rfl, hpassed, hs⟩ := h
  induction lines with
  | nil => exact ⟨[], s, left, e, rfl, by simp, hs⟩
  | cons t lines ih =>
      obtain ⟨hpicks, hpassed⟩ := List.forall_mem_cons.mp hpassed
      by_cases ht : ∃ e, StumblesOver low high t e
      · obtain ⟨e, ht⟩ := ht
        exact ⟨[], t, lines.map .line ++ .line s :: left, e, rfl, by simp, ht⟩
      · obtain ⟨before, u, rest, e, hreplies, hbefore, hu⟩ := ih hpassed
        refine ⟨t :: before, u, rest, e, ?_,
          List.forall_mem_cons.mpr ⟨⟨hpicks, not_exists.mp ht⟩, hbefore⟩, hu⟩
        rw [List.map_cons, List.cons_append, hreplies, List.map_cons, List.cons_append]

/-- The first line that makes the asking stumble ends it. -/
theorem hear_of_stumbles {lines : List Text} {s : Text} {left : List Reply} {e : NumberError}
    (hpassed : ∀ t ∈ lines, picks? low high t = none ∧ ∀ e, ¬ StumblesOver low high t e)
    (hs : judgeChoice low high (Text.strip s) = .error (.number e)) :
    hear (judgeChoice low high) (lines.map .line ++ .line s :: left) =
      ⟨.error (.number e), lines.length, left⟩ := by
  have hlines : ∀ t ∈ lines, judgeChoice low high (Text.strip t) = .ok none := by
    intro t ht
    rw [judgeChoice_eq (hpassed t ht).2, (hpassed t ht).1]
  rw [hear_append hlines, hear, hs]
  rfl

/-- Nothing settles what a line ends that cannot be judged. -/
theorem Settles.ne_of_stumbles {lines : List Text} {s : Text} {left rest : List Reply}
    {e : NumberError} :
    ¬ Settles low high (lines.map .line ++ .line s :: left)
      ⟨.error (.number e), lines.length, rest⟩ := by
  intro h
  generalize hreplies : List.map Reply.line lines ++ .line s :: left = replies at h
  generalize hheard : (⟨.error (.number e), lines.length, rest⟩ : Hearing (Option Int)) = heard
    at h
  cases h with
  | picked others passed picks =>
      cases congrArg Hearing.result hheard
  | unread others passed fails =>
      have hlength : lines.length = others.length := congrArg Hearing.refused hheard
      obtain ⟨-, htail⟩ := List.append_inj hreplies (by simpa using hlength)
      rw [← htail] at fails
      cases fails

end Judging

section Choosing

variable {question : Text}

theorem perform_askChoice (hfree : Markup.HasNoTags question) (low high : Int)
    (around : Surroundings) (w : World) :
    let heard := hear (judgeChoice low high) w.replies
    (askChoice question low high).perform around w =
      (heard.result, w.after heard.left (rounds (shown around.screen question)
        (around.screen.layOut (choiceNotice low high)) heard.refused)) := by
  refine (perform_asking question (fun screen => screen.layOut (choiceNotice low high))
    (judgeChoice low high) around w).trans ?_
  rw [question_of_hasNoTags hfree]
  exact perform_askUntil _ _ _ around w

/--
Asking for a number goes on until a line picks one. The run reads up to and including the first
line that is empty or a numeral between the bounds, gives a notice for each line before it,
leaves the lines behind it, and ends with that choice, or with the failure of the read if there
is no such line: this is so if and only if it does not stumble. At the first line that makes it
stumble the run ends with a refusal. It is the refusal to read a false numeral as a number, for
a digit that is not decimal or for too many digits; or else that to write a bound that has too
many digits itself.
-/
theorem askChoice_asks_on_iff (hfree : Markup.HasNoTags question) (low high : Int)
    (around : Surroundings) (w : World) :
    let run := (askChoice question low high).perform around w
    let talked (refused : Nat) (left : List Reply) : World :=
      w.after left (rounds (shown around.screen question)
        (around.screen.layOut (choiceNotice low high)) refused)
    ((∃ heard, Settles low high w.replies heard ∧
        run = (heard.result, talked heard.refused heard.left)) ↔
      ¬ Stumbles low high w.replies) ∧
    (Stumbles low high w.replies →
      ∃ lines s left e, w.replies = List.map Reply.line lines ++ .line s :: left ∧
        (∀ t ∈ lines, picks? low high t = none ∧ ∀ e, ¬ StumblesOver low high t e) ∧
        StumblesOver low high s e ∧
        run = (.error (.number e), talked lines.length left)) := by
  intro run talked
  have hrun : run = _ := perform_askChoice hfree low high around w
  have hfails (h : Stumbles low high w.replies) :
      ∃ lines s left e, w.replies = List.map Reply.line lines ++ .line s :: left ∧
        (∀ t ∈ lines, picks? low high t = none ∧ ∀ e, ¬ StumblesOver low high t e) ∧
        StumblesOver low high s e ∧
        run = (.error (.number e), talked lines.length left) := by
    obtain ⟨lines, s, left, _, hreplies, hpassed, hs⟩ := h.first
    obtain ⟨e, hstumbles, hjudged⟩ := exists_judgeChoice_eq_error hs
    rw [hreplies, hear_of_stumbles hpassed hjudged] at hrun
    exact ⟨lines, s, left, e, hreplies, hpassed, hstumbles, hrun⟩
  refine ⟨⟨?_, fun h => ⟨_, settles_hear h, hrun⟩⟩, hfails⟩
  rintro ⟨heard, hsettles, hclaimed⟩ hstumbles
  obtain ⟨lines, s, left, e, hreplies, -, -, hfailed⟩ := hfails hstumbles
  rw [hfailed] at hclaimed
  obtain ⟨hresult, hworld⟩ := Prod.ext_iff.mp hclaimed
  -- as many rounds are shown, so the line at which asking stumbled is the one that settles it
  have hrefused : lines.length = heard.refused :=
    rounds_injective _ _ (List.append_cancel_left (congrArg World.printed hworld))
  obtain ⟨result, refused, rest⟩ := heard
  obtain rfl : .error (.number e) = result := hresult
  obtain rfl : lines.length = refused := hrefused
  rw [hreplies] at hsettles
  exact Settles.ne_of_stumbles hsettles

/-- A number out of bounds is passed over; a superscript is a digit, but no number can be read. -/
theorem askChoice_asks_on_iff_superscript :
    let w (first : Text) : World :=
      { store := {}, replies := ([first, "2", "more"] : List Text).map .line }
    let run (first : Text) := (askChoice "Pick" 1 3).perform .plain (w first)
    Markup.HasNoTags "Pick" ∧
      ¬ Stumbles 1 3 (w "7").replies ∧
      run "7" = (.ok (some 2), (w "7").after [.line "more"]
        "Pick: Please enter a number between 1 and 3.\nPick: ") ∧
      Stumbles 1 3 (w "²").replies ∧
      ∃ e, (run "²").1 = .error (.number e) ∧ (run "²").2.printed = "Pick: ".toList := by
  intro w run
  have hfree : Markup.HasNoTags "Pick" := by decide
  have hsettles : Settles 1 3 (w "7").replies ⟨.ok (some 2), 1, [.line "more"]⟩ :=
    .picked ["7"] (by decide +kernel) (by decide +kernel)
  have hrun : run "7" = (.ok (some 2), (w "7").after [.line "more"]
      "Pick: Please enter a number between 1 and 3.\nPick: ") := by decide +kernel
  have hstumbles : Stumbles 1 3 (w "²").replies :=
    ⟨[], "²", [.line "2", .line "more"], .malformed "²", rfl, by simp,
      .numeral (by decide +kernel) (.malformed ⟨'²', by decide +kernel, by decide +kernel⟩)⟩
  obtain ⟨hgoes, -⟩ := askChoice_asks_on_iff hfree 1 3 .plain (w "7")
  obtain ⟨-, hfails⟩ := askChoice_asks_on_iff hfree 1 3 .plain (w "²")
  obtain ⟨lines, s, left, e, -, -, -, hfailed⟩ := hfails hstumbles
  refine ⟨hfree, hgoes.mp ⟨_, hsettles, ?_⟩, hrun, hstumbles, e, congrArg Prod.fst hfailed,
    by decide +kernel⟩
  rw [show (askChoice "Pick" 1 3).perform .plain (w "7") = run "7" from rfl, hrun]
  decide +kernel

end Choosing

end Console
end NoteTemplates
