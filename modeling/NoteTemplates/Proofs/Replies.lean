import NoteTemplates.Program
import NoteTemplates.Proofs.Exchanges

/-!
# Reading replies

An effect *reads* replies if it takes lines from them, as many as it wants, and fails with a
failure of its own kind or with that of a read: one that was typed, or the one that says that
nothing is left. So whoever breaks off does so at a read. Reading is closed under sequences,
and everything that the commands are made of reads in this sense; printing takes no line at
all, and its failures are those of texts with tags.
-/

namespace NoteTemplates

open Effect

/-- A failure of a text with tags. -/
def Failure.IsOfMarkup : Failure → Prop
  | .markup _ | .number _ => True
  | _ => False

theorem Failure.IsOfMarkup.isOwn {f : Failure} (h : f.IsOfMarkup) : f.IsOwn := by
  intro hbreak
  cases f <;> first | exact h | exact hbreak

theorem FailsAs.mono {α : Type} {E E' : Failure → Prop} {x : Except Failure α}
    (h : FailsAs E x) (hE : ∀ f, E f → E' f) : FailsAs E' x :=
  fun f hf => hE f (h f hf)

namespace Markup

theorem failsAs_closed (position : Nat) (t : Tag) (name : Text) (opened : List Opened) :
    FailsAs Failure.IsOfMarkup (closed position t name opened) := by
  unfold closed
  split
  · split
    · exact failsAs_error trivial
    · exact failsAs_ok _
  · refine (failsAs_mapError fun _ => trivial).bind fun name => ?_
    split
    · exact failsAs_ok _
    · exact failsAs_error trivial

theorem Progress.failsAs_apply (screen : Screen) (p : Progress) (position : Nat) (t : Tag) :
    FailsAs Failure.IsOfMarkup (p.apply screen position t) := by
  unfold apply
  split
  · refine (failsAs_closed _ _ _ _).bind fun found => ?_
    exact (failsAs_mapError fun _ => trivial).bind fun _ => failsAs_ok _
  · exact (failsAs_mapError fun _ => trivial).bind fun _ => failsAs_ok _

theorem failsAs_readFrom (screen : Screen) (position : Nat) (p : Progress)
    (segments : List Segment) :
    FailsAs Failure.IsOfMarkup (readFrom screen position p segments) := by
  induction segments generalizing position p with
  | nil => exact failsAs_ok _
  | cons segment segments ih =>
      cases segment with
      | plain s => exact ih _ _
      | tag t =>
          simp only [readFrom]
          split
          · exact ih _ _
          · split
            · rename_i f hf
              exact failsAs_error (Progress.failsAs_apply _ _ _ _ f hf)
            · exact ih _ _

theorem failsAs_plain (screen : Screen) (s : Text) :
    FailsAs Failure.IsOfMarkup (plain screen s) := by
  refine (failsAs_readFrom _ _ _ _).bind fun p => ?_
  exact (failsAs_mapError fun _ => trivial).bind fun _ => failsAs_ok _

end Markup

namespace Effect

variable {α β : Type} {E E' : Failure → Prop}

/--
An effect that takes lines from the replies. If it fails, the failure is of a kind, or it is
that of the read behind the last line.
-/
def Reads (E : Failure → Prop) (a : Effect α) : Prop :=
  ∀ around w, ∃ lines : List Text, ∃ tail, w.replies = lines.map .line ++ tail ∧
    ((a.perform around w).2.replies = tail ∧ FailsAs E (a.perform around w).1 ∨
      ∃ f, (a.perform around w).1 = .error f ∧
        Console.ReadFails f tail (a.perform around w).2.replies)

section Reads

/-- An effect that leaves the replies alone reads no line. -/
theorem reads_of_replies_eq {a : Effect α}
    (h : ∀ around w, (a.perform around w).2.replies = w.replies ∧
      FailsAs E (a.perform around w).1) : Reads E a :=
  fun around w => ⟨[], w.replies, rfl, Or.inl (h around w)⟩

theorem Silent.reads {a : Effect α} (h : Silent E a) : Reads E a :=
  reads_of_replies_eq fun around w => ⟨congrArg Prod.fst (h around w).1, (h around w).2⟩

theorem Reads.mono {a : Effect α} (h : Reads E a) (hE : ∀ f, E f → E' f) : Reads E' a := by
  intro around w
  obtain ⟨lines, tail, hlines, hends⟩ := h around w
  exact ⟨lines, tail, hlines, hends.imp_left fun ⟨hleft, hfails⟩ => ⟨hleft, hfails.mono hE⟩⟩

/-- Only lines were read by an effect that ends with a value. -/
theorem Reads.of_ok {a : Effect α} (h : Reads E a) {around : Surroundings} {v w : World} {x : α}
    (hrun : a.perform around w = (.ok x, v)) :
    ∃ lines : List Text, w.replies = lines.map .line ++ v.replies := by
  obtain ⟨lines, tail, hlines, hends⟩ := h around w
  rw [hrun] at hends
  rcases hends with ⟨hleft, -⟩ | ⟨f, hf, -⟩
  · exact ⟨lines, by rw [hlines]; exact congrArg _ hleft.symm⟩
  · cases hf

theorem reads_pure (x : α) : Reads E (pure x : Effect α) :=
  (silent_pure x).reads

theorem reads_bind {a : Effect α} {g : α → Effect β} (ha : Reads E a)
    (hg : ∀ x, Reads E (g x)) : Reads E (a >>= g) := by
  intro around w
  obtain ⟨lines, tail, hlines, hends⟩ := ha around w
  rw [perform_bind]
  cases hrun : a.perform around w with
  | mk result v =>
      rw [hrun] at hends
      rcases hends with ⟨hleft, hfails⟩ | ⟨f, hf, htail⟩
      · cases result with
        | error f => exact ⟨lines, tail, hlines, Or.inl ⟨hleft, failsAs_error (hfails f rfl)⟩⟩
        | ok x =>
            obtain ⟨more, rest, hmore, hrest⟩ := hg x around v
            refine ⟨lines ++ more, rest, ?_, hrest⟩
            have hleft : v.replies = tail := hleft
            rw [hlines, ← hleft, hmore, List.map_append, List.append_assoc]
      · have hf : result = .error f := hf
        rw [hf]
        exact ⟨lines, tail, hlines, Or.inr ⟨f, rfl, htail⟩⟩

theorem reads_discard {a : Effect α} (h : Reads E a) : Reads E (discard a) := by
  intro around w
  rw [perform_discard]
  exact reads_bind h (fun _ => reads_pure _) around w

end Reads

/-- An effect that leaves the files alone, whatever it reads and shows. -/
structure Converses (a : Effect α) : Prop where
  quiet : Quiet a
  reads : Reads Failure.IsOwn a

theorem Calm.converses {a : Effect α} (h : Calm Failure.IsOwn a) : Converses a :=
  ⟨h.quiet, h.silent.reads⟩

theorem converses_pure (x : α) : Converses (pure x : Effect α) :=
  ⟨quiet_pure x, reads_pure x⟩

theorem converses_bind {a : Effect α} {g : α → Effect β} (ha : Converses a)
    (hg : ∀ x, Converses (g x)) : Converses (a >>= g) :=
  ⟨quiet_bind ha.quiet fun x => (hg x).quiet, reads_bind ha.reads fun x => (hg x).reads⟩

theorem converses_discard {a : Effect α} (h : Converses a) : Converses (discard a) :=
  ⟨quiet_discard h.quiet, reads_discard h.reads⟩

end Effect

namespace Console

variable {α : Type} {around : Surroundings}

theorem perform_printLine (s : Text) (w : World) :
    (printLine s).perform around w =
      match Markup.plain around.screen s with
      | .ok shown => (.ok (), { w with printed :=
          w.printed ++ (around.screen.layOut shown ++ Text.newline) })
      | .error f => (.error f, w) := by
  rw [printLine, perform_bind, perform_read]
  simp only [perform_bind, perform_settle]
  cases Markup.plain around.screen s <;> rfl

theorem perform_complainLine (s : Text) (w : World) :
    (complainLine s).perform around w =
      match Markup.plain around.screen s with
      | .ok shown => (.ok (), { w with complaints :=
          w.complaints ++ (around.screen.layOut shown ++ Text.newline) })
      | .error f => (.error f, w) := by
  rw [complainLine, perform_bind, perform_read]
  simp only [perform_bind, perform_settle]
  cases Markup.plain around.screen s <;> rfl

theorem quiet_printLine (s : Text) : Quiet (printLine s) :=
  quiet_bind quiet_read fun _ => quiet_bind (quiet_settle _) fun _ => quiet_print _

theorem quiet_complainLine (s : Text) : Quiet (complainLine s) :=
  quiet_bind quiet_read fun _ => quiet_bind (quiet_settle _) fun _ => quiet_modify fun _ => rfl

theorem reads_printLine (s : Text) : Reads Failure.IsOfMarkup (printLine s) := by
  refine reads_of_replies_eq fun around w => ?_
  have hfails := Markup.failsAs_plain around.screen s
  rw [perform_printLine]
  cases hplain : Markup.plain around.screen s with
  | ok shown => exact ⟨rfl, failsAs_ok _⟩
  | error f => exact ⟨rfl, failsAs_error (hfails f hplain)⟩

theorem reads_complainLine (s : Text) : Reads Failure.IsOfMarkup (complainLine s) := by
  refine reads_of_replies_eq fun around w => ?_
  have hfails := Markup.failsAs_plain around.screen s
  rw [perform_complainLine]
  cases hplain : Markup.plain around.screen s with
  | ok shown => exact ⟨rfl, failsAs_ok _⟩
  | error f => exact ⟨rfl, failsAs_error (hfails f hplain)⟩

theorem converses_printLine (s : Text) : Converses (printLine s) :=
  ⟨quiet_printLine s, (reads_printLine s).mono fun _ h => h.isOwn⟩

theorem converses_complainLine (s : Text) : Converses (complainLine s) :=
  ⟨quiet_complainLine s, (reads_complainLine s).mono fun _ h => h.isOwn⟩

/--
How asking ends: with the value of the line that was read last, with what is wrong with that
line, or with the failure of a read.
-/
theorem askUntil_cases (shown notice : Text) (judge : Text → Except Failure (Option α))
    (around : Surroundings) (w : World) :
    let run := (askUntil shown notice judge w.replies).perform around w
    (∃ lines s a, w.replies = List.map Reply.line lines ++ .line s :: run.2.replies ∧
      judge (Text.strip s) = .ok (some a) ∧ run.1 = .ok a) ∨
    (∃ lines s f, w.replies = List.map Reply.line lines ++ .line s :: run.2.replies ∧
      judge (Text.strip s) = .error f ∧ run.1 = .error f) ∨
    ∃ lines tail f, w.replies = List.map Reply.line lines ++ tail ∧
      ReadFails f tail run.2.replies ∧ run.1 = .error f := by
  generalize hreplies : w.replies = replies
  induction replies generalizing w with
  | nil =>
      rw [perform_askUntil_of_readFails _ _ _ .exhausted hreplies]
      exact Or.inr (Or.inr ⟨[], [], _, rfl, .exhausted, rfl⟩)
  | cons reply replies ih =>
      cases reply with
      | failure f =>
          rw [perform_askUntil_of_readFails _ _ _ (.typed f replies) hreplies]
          exact Or.inr (Or.inr ⟨[], _, f, rfl, .typed f replies, rfl⟩)
      | line s =>
          rw [perform_askUntil_line]
          cases hjudge : judge (Text.strip s) with
          | error f => exact Or.inr (Or.inl ⟨[], s, f, rfl, hjudge, rfl⟩)
          | ok answer =>
              cases answer with
              | some a => exact Or.inl ⟨[], s, a, rfl, hjudge, rfl⟩
              | none =>
                  -- the line will not do, and the same question is put to the lines behind it
                  dsimp only
                  rcases ih (w.after replies (shown ++ (notice ++ Text.newline))) rfl with
                    ⟨lines, t, a, hlines, ht, hrun⟩ | ⟨lines, t, f, hlines, ht, hrun⟩ |
                    ⟨lines, tail, f, hlines, ht, hrun⟩
                  · exact Or.inl ⟨s :: lines, t, a, congrArg (.line s :: ·) hlines, ht, hrun⟩
                  · exact Or.inr (Or.inl
                      ⟨s :: lines, t, f, congrArg (.line s :: ·) hlines, ht, hrun⟩)
                  · exact Or.inr (Or.inr
                      ⟨s :: lines, tail, f, congrArg (.line s :: ·) hlines, ht, hrun⟩)

theorem reads_askUntil {E : Failure → Prop} (shown notice : Text)
    {judge : Text → Except Failure (Option α)} (hjudge : ∀ s, FailsAs E (judge s)) :
    Reads E (do askUntil shown notice judge (← get).replies) := by
  intro around w
  rw [perform_bind, perform_get]
  rcases askUntil_cases shown notice judge around w with
    ⟨lines, s, a, hlines, -, hrun⟩ | ⟨lines, s, f, hlines, hf, hrun⟩ |
    ⟨lines, tail, f, hlines, hfails, hrun⟩
  · refine ⟨lines ++ [s], _, ?_, Or.inl ⟨rfl, ?_⟩⟩
    · simpa using hlines
    · rw [hrun]
      exact failsAs_ok a
  · refine ⟨lines ++ [s], _, ?_, Or.inl ⟨rfl, ?_⟩⟩
    · simpa using hlines
    · rw [hrun]
      exact failsAs_error (hjudge _ f hf)
  · exact ⟨lines, tail, hlines, Or.inr ⟨f, hrun, hfails⟩⟩

theorem reads_question (screen : Screen) (s : Text) :
    Reads Failure.IsOwn (settle (question screen s)) :=
  (silent_settle (((Markup.failsAs_plain screen s).mono fun _ h => h.isOwn).map _)).reads

theorem failsAs_passOver (low high : Int) : FailsAs Failure.IsOwn (passOver low high) := by
  unfold passOver
  split
  · exact failsAs_ok _
  · exact failsAs_error id

theorem converses_askChoice (s : Text) (low high : Int) : Converses (askChoice s low high) := by
  constructor
  · refine quiet_bind quiet_read fun around => quiet_bind (quiet_settle _) fun shown => ?_
    exact quiet_bind quiet_get fun w => Reader.quiet_askUntil _ _ _ _
  refine reads_bind silent_read.reads fun around => ?_
  refine reads_bind (reads_question _ s) fun shown => ?_
  refine reads_askUntil shown _ fun answer => ?_
  unfold judgeChoice
  split
  · exact failsAs_ok _
  · split
    · split
      · exact failsAs_error id
      · split
        · exact failsAs_ok _
        · exact failsAs_passOver low high
    · exact failsAs_passOver low high

end Console

theorem Reader.reads_ask {r : Reader} (h : r ≠ .script) (question : Text) :
    Reads Failure.IsOwn (r.ask question) := by
  cases r with
  | script => exact absurd rfl h
  | required =>
      refine reads_bind silent_read.reads fun around => ?_
      refine reads_bind (Console.reads_question _ question) fun shown => ?_
      exact Console.reads_askUntil shown _ fun _ => failsAs_ok _
  | line =>
      refine reads_bind silent_read.reads fun around => ?_
      refine reads_bind (Console.reads_question _ question) fun shown => ?_
      exact Console.reads_askUntil shown _ fun _ => failsAs_ok _

namespace Notebook

variable {book : Notebook}

theorem reads_askVariables {r : Reader} (h : r ≠ .script) (vs : List Variable) :
    Reads Failure.IsOwn (askVariables r vs) := by
  induction vs with
  | nil => exact reads_pure _
  | cons v vs ih =>
      refine reads_bind (Reader.reads_ask h _) fun value => ?_
      exact reads_bind ih fun _ => reads_pure _

theorem reads_askQuestions {r : Reader} (h : r ≠ .script) (questions : List Text) :
    Reads Failure.IsOwn (askQuestions r questions) := by
  induction questions with
  | nil => exact reads_pure _
  | cons question questions ih =>
      refine reads_bind (Reader.reads_ask h _) fun answer => ?_
      exact reads_bind ih fun _ => reads_pure _

theorem reads_collect (h : book.reader ≠ .script) (t : Template) :
    Reads Failure.IsOwn (book.collect t) := by
  refine reads_bind (reads_askVariables h _) fun values => ?_
  refine reads_bind (silent_note _ _ _ _).reads fun _ => ?_
  refine reads_bind (reads_askQuestions h _) fun answers => ?_
  exact reads_bind (silent_note _ _ _ _).reads fun _ => reads_pure _

/-- Preparing a note reads nothing but the answers. -/
theorem reads_prepare (h : book.reader ≠ .script) (t : Template) (now : Option Moment) :
    Reads Failure.IsOwn (book.prepare t now) := by
  have hrest : Reads Failure.IsOwn (book.collect t >>= fun collected =>
      book.render t collected.1 collected.2 now) :=
    reads_bind (reads_collect h t) fun _ => (book.calm_render t _ _ now).silent.reads
  unfold prepare
  split
  · exact reads_bind (silent_throw id).reads fun _ =>
      reads_bind (silent_note _ _ _ _).reads fun _ => hrest
  · exact reads_bind (silent_note _ _ _ _).reads fun _ => hrest

end Notebook

end NoteTemplates
