import Mathlib.Tactic.Ring
import NoteTemplates.Proofs.Exchanges

/-!
# Asking in rounds

A question is put in rounds: it is shown, a line is read, and if the line will not do, a notice
follows and the next round begins. What is *heard* in this way depends on the lines and on who
judges them, and not on the question: how the asking ends, how many lines would not do before
that, and which replies are left. The question only decides what is shown, once in each round.

* `perform_askUntil`: a whole run of asking, by induction on the replies.
* `hear_append`: lines that will not do are passed over, one round each.
-/

namespace NoteTemplates

open Effect

namespace Console

variable {α : Type}

/-- How asking ends, how many lines would not do before that, and what is left unread. -/
structure Hearing (α : Type) where
  result : Except Failure α
  refused : Nat
  left : List Reply

/-- What is heard after one more line that would not do. -/
def Hearing.later (h : Hearing α) (rounds : Nat) : Hearing α :=
  { h with refused := rounds + h.refused }

/-- What is heard from replies, up to the first line that the judge does not refuse. -/
def hear (judge : Text → Except Failure (Option α)) : List Reply → Hearing α
  | [] => ⟨.error exhausted, 0, []⟩
  | .failure f :: replies => ⟨.error f, 0, replies⟩
  | .line s :: replies =>
    match judge (Text.strip s) with
    | .ok (some a) => ⟨.ok a, 0, replies⟩
    | .ok none => (hear judge replies).later 1
    | .error f => ⟨.error f, 0, replies⟩

/-- A question as often as it is shown: once more, behind a notice, for each refused line. -/
def rounds (shown notice : Text) : Nat → Text
  | 0 => shown
  | refused + 1 => shown ++ (notice ++ Text.newline) ++ rounds shown notice refused

section Rounds

variable {judge : Text → Except Failure (Option α)} {shown notice : Text}

theorem length_rounds (shown notice : Text) (refused : Nat) :
    (rounds shown notice refused).length =
      shown.length + refused * (shown.length + notice.length + 1) := by
  induction refused with
  | zero => simp [rounds]
  | succ refused ih =>
      have hnewline : Text.newline.length = 1 := rfl
      simp only [rounds, List.length_append, ih, hnewline, Nat.succ_mul]
      omega

/-- Each round shows something, so the number of rounds can be told. -/
theorem rounds_injective (shown notice : Text) : Function.Injective (rounds shown notice) := by
  intro m n heq
  have hlength := congrArg List.length heq
  rw [length_rounds, length_rounds] at hlength
  exact Nat.eq_of_mul_eq_mul_right (Nat.succ_pos _) (Nat.add_left_cancel hlength)

/-- What is shown in each round can be told from all of them. -/
theorem eq_of_rounds_eq {other : Text} {refused : Nat}
    (h : rounds shown notice refused = rounds other notice refused) : shown = other := by
  have hform (s : Text) : (rounds s notice refused).length =
      (refused + 1) * s.length + refused * (notice.length + 1) := by
    rw [length_rounds]
    ring
  have hlength := congrArg List.length h
  rw [hform, hform] at hlength
  have hsame : shown.length = other.length :=
    Nat.eq_of_mul_eq_mul_left refused.succ_pos (Nat.add_right_cancel hlength)
  cases refused with
  | zero => exact h
  | succ refused =>
      simp only [rounds, List.append_assoc] at h
      exact List.append_inj_left h hsame

/-- Lines that will not do only add rounds. -/
theorem hear_append {lines : List Text} (h : ∀ s ∈ lines, judge (Text.strip s) = .ok none)
    (tail : List Reply) :
    hear judge (lines.map .line ++ tail) = (hear judge tail).later lines.length := by
  induction lines with
  | nil =>
      rw [List.map_nil, List.nil_append, Hearing.later, List.length_nil, Nat.zero_add]
  | cons s lines ih =>
      rw [List.map_cons, List.cons_append, hear, h s (by simp),
        ih fun s hs => h s (by simp [hs])]
      simp only [Hearing.later, List.length_cons]
      congr 1
      omega

/-- The whole of a run: what is heard is the outcome, and the question is shown in each round. -/
theorem perform_askUntil (shown notice : Text) (judge : Text → Except Failure (Option α))
    (around : Surroundings) (w : World) :
    (askUntil shown notice judge w.replies).perform around w =
      ((hear judge w.replies).result,
        w.after (hear judge w.replies).left
          (rounds shown notice (hear judge w.replies).refused)) := by
  generalize hreplies : w.replies = replies
  induction replies generalizing w with
  | nil => rw [perform_askUntil_of_readFails _ _ _ .exhausted hreplies, hear, rounds]
  | cons reply replies ih =>
      cases reply with
      | failure f =>
          rw [perform_askUntil_of_readFails _ _ _ (.typed f replies) hreplies, hear, rounds]
      | line s =>
          rw [perform_askUntil_line, hear]
          cases judge (Text.strip s) with
          | error f => rfl
          | ok answer =>
              cases answer with
              | some a => rfl
              | none =>
                  dsimp only
                  rw [ih (w.after replies (shown ++ (notice ++ Text.newline))) rfl,
                    World.after_after, Hearing.later, Nat.add_comm 1, rounds]

end Rounds

end Console
end NoteTemplates
