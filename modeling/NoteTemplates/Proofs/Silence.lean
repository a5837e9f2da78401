import NoteTemplates.Proofs.Effects

/-!
# Effects that say nothing

What somebody at the console notices of a run is its talk: which replies are left, what was
asked, and what was shown.

* A *silent* effect leaves the talk alone and fails with failures of some kind only.
* A *calm* effect is silent and quiet: it leaves the files alone as well.

Both kinds are closed under everything that effects are built with. Where a failure is looked
at before it goes on, its kind is known.
-/

namespace NoteTemplates

/-- What was said: the replies that are left, the questions, and what was shown. -/
def World.talk (w : World) : List Reply × List Text × Text × Text :=
  (w.replies, w.asked, w.printed, w.complaints)

namespace Failure

/-- A read that ended without a line. -/
def IsBreak : Failure → Prop
  | .interrupted | .endOfInput _ => True
  | _ => False

/-- A failure that no read is to blame for. -/
def IsOwn (f : Failure) : Prop :=
  ¬ f.IsBreak

/-- A failure of a call to the file system. -/
def IsOfDisk : Failure → Prop
  | .system _ | .embeddedNull => True
  | _ => False

/-- A failure of opening a file in an editor. -/
def IsOfEditor : Failure → Prop
  | .editor _ | .words _ | .system _ | .embeddedNull => True
  | _ => False

variable {f : Failure}

theorem IsOfDisk.isOwn (h : f.IsOfDisk) : f.IsOwn := by
  intro hbreak
  cases f <;> first | exact h | exact hbreak

theorem IsOfEditor.isOwn (h : f.IsOfEditor) : f.IsOwn := by
  intro hbreak
  cases f <;> first | exact h | exact hbreak

end Failure

/-- A value, or a failure of some kind only. -/
def FailsAs {α : Type} (E : Failure → Prop) (x : Except Failure α) : Prop :=
  ∀ f, x = .error f → E f

section FailsAs

variable {α β ε : Type} {E : Failure → Prop} {x : Except Failure α}

theorem failsAs_ok (a : α) : FailsAs E (.ok a) := by
  intro f hf
  cases hf

theorem failsAs_error {f : Failure} (h : E f) : FailsAs E (.error f : Except Failure α) := by
  intro g hg
  cases hg
  exact h

theorem FailsAs.map (h : FailsAs E x) (g : α → β) : FailsAs E (x.map g) := by
  cases x with
  | error f => exact failsAs_error (h f rfl)
  | ok a => exact failsAs_ok _

theorem FailsAs.bind {g : α → Except Failure β} (h : FailsAs E x)
    (hg : ∀ a, FailsAs E (g a)) : FailsAs E (x.bind g) := by
  cases x with
  | error f => exact failsAs_error (h f rfl)
  | ok a => exact hg a

theorem failsAs_mapError {y : Except ε α} {g : ε → Failure} (h : ∀ e, E (g e)) :
    FailsAs E (y.mapError g) := by
  cases y with
  | error e => exact failsAs_error (h e)
  | ok a => exact failsAs_ok a

end FailsAs

namespace Effect

variable {α β : Type} {E E' : Failure → Prop}

/-- An effect that leaves the talk alone, and whose failures are of some kind. -/
def Silent (E : Failure → Prop) (a : Effect α) : Prop :=
  ∀ around w, (a.perform around w).2.talk = w.talk ∧ FailsAs E (a.perform around w).1

section Silent

theorem Silent.mono {a : Effect α} (h : Silent E a) (hE : ∀ f, E f → E' f) : Silent E' a :=
  fun around w => ⟨(h around w).1, fun f hf => hE f ((h around w).2 f hf)⟩

theorem silent_pure (x : α) : Silent E (pure x : Effect α) :=
  fun _ _ => ⟨rfl, failsAs_ok x⟩

theorem silent_throw {f : Failure} (h : E f) : Silent E (throw f : Effect α) :=
  fun _ _ => ⟨rfl, failsAs_error h⟩

theorem silent_read : Silent E (read : Effect Surroundings) :=
  fun _ _ => ⟨rfl, failsAs_ok _⟩

theorem silent_get : Silent E (get : Effect World) :=
  fun _ _ => ⟨rfl, failsAs_ok _⟩

theorem silent_refuse (h : ∀ e, E (.system e)) (errno : Errno) (paths : List Text) :
    Silent E (refuse errno paths : Effect α) :=
  silent_throw (h _)

theorem silent_modify {g : World → World} (h : ∀ w, (g w).talk = w.talk) :
    Silent E (modify g : Effect PUnit) :=
  fun _ w => ⟨h w, failsAs_ok _⟩

theorem silent_settle {x : Except Failure α} (h : FailsAs E x) : Silent E (settle x) := by
  intro around w
  rw [perform_settle]
  exact ⟨rfl, h⟩

theorem silent_commit (s : Store) : Silent E (commit s) :=
  fun _ _ => ⟨rfl, failsAs_ok _⟩

theorem silent_note (level : Log.Level) (source : Log.Source) (message : Text)
    (values : List (Text × Log.Value)) : Silent E (note level source message values) :=
  fun _ _ => ⟨rfl, failsAs_ok _⟩

theorem silent_bind {a : Effect α} {g : α → Effect β} (ha : Silent E a)
    (hg : ∀ x, Silent E (g x)) : Silent E (a >>= g) := by
  intro around w
  have h := ha around w
  rw [perform_bind]
  cases hrun : a.perform around w with
  | mk result v =>
      rw [hrun] at h
      cases result with
      | ok x =>
          obtain ⟨htalk, hfails⟩ := hg x around v
          exact ⟨htalk.trans h.1, hfails⟩
      | error f => exact ⟨h.1, failsAs_error (h.2 f rfl)⟩

/-- What follows an attempt knows of which kind a failure is. -/
theorem silent_attempt_bind {a : Effect α} {g : Except Failure α → Effect β}
    (ha : Silent E' a) (hok : ∀ x, Silent E (g (.ok x)))
    (herror : ∀ f, E' f → Silent E (g (.error f))) : Silent E (attempt a >>= g) := by
  intro around w
  have h := ha around w
  rw [perform_bind, perform_attempt]
  cases hrun : a.perform around w with
  | mk result v =>
      rw [hrun] at h
      have hrest : Silent E (g result) := by
        cases result with
        | ok x => exact hok x
        | error f => exact herror f (h.2 f rfl)
      obtain ⟨htalk, hfails⟩ := hrest around v
      exact ⟨htalk.trans h.1, hfails⟩

end Silent

/-- An effect that leaves the files and the talk alone, and whose failures are of some kind. -/
structure Calm (E : Failure → Prop) (a : Effect α) : Prop where
  quiet : Quiet a
  silent : Silent E a

section Calm

theorem Calm.mono {a : Effect α} (h : Calm E a) (hE : ∀ f, E f → E' f) : Calm E' a :=
  ⟨h.quiet, h.silent.mono hE⟩

/-- The world that a calm effect leaves with a value has the same talk and the same history. -/
theorem Calm.of_fst_eq_ok {a : Effect α} (h : Calm E a) {around : Surroundings} {w : World}
    {x : α} (hok : (a.perform around w).1 = .ok x) :
    ∃ v, a.perform around w = (.ok x, v) ∧ v.talk = w.talk ∧ v.history = w.history :=
  ⟨_, Prod.ext hok rfl, (h.silent around w).1, h.quiet around w⟩

/-- An effect is calm if it always ends with a value and changes nothing. -/
theorem calm_of_perform {a : Effect α}
    (h : ∀ around w, ∃ x, a.perform around w = (.ok x, w)) : Calm E a := by
  constructor
  · intro around w
    obtain ⟨x, hx⟩ := h around w
    rw [hx]
  · intro around w
    obtain ⟨x, hx⟩ := h around w
    rw [hx]
    exact ⟨rfl, failsAs_ok x⟩

theorem calm_pure (x : α) : Calm E (pure x : Effect α) :=
  ⟨quiet_pure x, silent_pure x⟩

theorem calm_throw {f : Failure} (h : E f) : Calm E (throw f : Effect α) :=
  ⟨quiet_throw f, silent_throw h⟩

theorem calm_read : Calm E (read : Effect Surroundings) :=
  ⟨quiet_read, silent_read⟩

theorem calm_get : Calm E (get : Effect World) :=
  ⟨quiet_get, silent_get⟩

theorem calm_refuse (h : ∀ e, E (.system e)) (errno : Errno) (paths : List Text) :
    Calm E (refuse errno paths : Effect α) :=
  ⟨quiet_refuse errno paths, silent_refuse h errno paths⟩

theorem calm_modify {g : World → World} (hhistory : ∀ w, (g w).history = w.history)
    (htalk : ∀ w, (g w).talk = w.talk) : Calm E (modify g : Effect PUnit) :=
  ⟨quiet_modify hhistory, silent_modify htalk⟩

theorem calm_settle {x : Except Failure α} (h : FailsAs E x) : Calm E (settle x) :=
  ⟨quiet_settle x, silent_settle h⟩

theorem calm_note (level : Log.Level) (source : Log.Source) (message : Text)
    (values : List (Text × Log.Value)) : Calm E (note level source message values) :=
  ⟨quiet_note level source message values, silent_note level source message values⟩

theorem calm_bind {a : Effect α} {g : α → Effect β} (ha : Calm E a)
    (hg : ∀ x, Calm E (g x)) : Calm E (a >>= g) :=
  ⟨quiet_bind ha.quiet fun x => (hg x).quiet, silent_bind ha.silent fun x => (hg x).silent⟩

theorem calm_attempt_bind {a : Effect α} {g : Except Failure α → Effect β} (ha : Calm E' a)
    (hok : ∀ x, Calm E (g (.ok x))) (herror : ∀ f, E' f → Calm E (g (.error f))) :
    Calm E (attempt a >>= g) := by
  refine ⟨?_, silent_attempt_bind ha.silent (fun x => (hok x).silent) fun f hf =>
    (herror f hf).silent⟩
  intro around w
  have hquiet := ha.quiet around w
  have hfails := (ha.silent around w).2
  rw [perform_bind, perform_attempt]
  cases hrun : a.perform around w with
  | mk result v =>
      rw [hrun] at hquiet hfails
      cases result with
      | ok x => exact ((hok x).quiet around v).trans hquiet
      | error f => exact ((herror f (hfails f rfl)).quiet around v).trans hquiet

theorem calm_discard {a : Effect α} (h : Calm E a) : Calm E (discard a) := by
  refine ⟨quiet_discard h.quiet, fun around w => ?_⟩
  rw [perform_discard]
  exact silent_bind h.silent (fun _ => silent_pure _) around w

theorem calm_forM {g : β → Effect PUnit} (hg : ∀ x, Calm E (g x)) :
    ∀ xs : List β, Calm E (xs.forM g)
  | [] => calm_pure _
  | x :: xs => calm_bind (hg x) fun _ => calm_forM hg xs

end Calm

end Effect
end NoteTemplates
