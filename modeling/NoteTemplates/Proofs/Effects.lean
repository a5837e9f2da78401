import NoteTemplates.Effect

/-!
# What effects leave behind

An effect is read off from its outcome: how it ends and the world it leaves. This module
unfolds the outcome of every way in which effects are put together, so that no later proof
opens the monad.

Two kinds of effect are kept apart.

* A *quiet* effect leaves the history of the file system alone: the present store and all
  earlier ones.
* An effect that *looks at the store only* ends in the same way, and leaves the same store,
  in any two worlds that have the same store.

Both kinds are closed under everything that effects are built with.
-/

namespace NoteTemplates

/-- The states of the file system so far, the present one first. -/
def World.history (w : World) : List Store :=
  w.store :: w.trail

/-- The world after a new state of the file system was put in place. -/
def World.moved (w : World) (s : Store) : World :=
  { w with store := s, trail := w.store :: w.trail }

/-- The world after an event was noted. -/
def World.noted (w : World) (e : Log.Event) : World :=
  { w with events := w.events ++ [e] }

@[simp] theorem World.store_noted (w : World) (e : Log.Event) :
    (w.noted e).store = w.store := rfl

@[simp] theorem World.history_noted (w : World) (e : Log.Event) :
    (w.noted e).history = w.history := rfl

@[simp] theorem World.store_moved (w : World) (s : Store) :
    (w.moved s).store = s := rfl

@[simp] theorem World.history_moved (w : World) (s : Store) :
    (w.moved s).history = s :: w.history := rfl

theorem World.store_eq_of_history_eq {w v : World}
    (h : w.history = v.history) : w.store = v.store := by
  simp only [World.history, List.cons.injEq] at h
  exact h.1

/--
The second world came from the first through states of the file system that all stand in a
relation to the state at the beginning.
-/
def World.LeadsTo (R : Store → Store → Prop) (w v : World) : Prop :=
  ∃ states, v.history = states ++ w.history ∧ ∀ s ∈ states, R w.store s

section LeadsTo

variable {R : Store → Store → Prop} {u v w : World}

theorem World.LeadsTo.refl (R : Store → Store → Prop) (w : World) : w.LeadsTo R w :=
  ⟨[], rfl, by simp⟩

theorem World.leadsTo_of_history_eq (h : v.history = w.history) : w.LeadsTo R v :=
  ⟨[], h, by simp⟩

theorem World.LeadsTo.moved {s : Store} (h : w.LeadsTo R v) (hs : R w.store s) :
    w.LeadsTo R (v.moved s) := by
  obtain ⟨states, hhistory, hstates⟩ := h
  refine ⟨s :: states, by rw [World.history_moved, hhistory, List.cons_append], ?_⟩
  simpa [hs] using hstates

/-- The present state stands in the relation as well, if the relation is reflexive. -/
theorem World.LeadsTo.store (h : w.LeadsTo R v) (hrefl : ∀ s, R s s) :
    R w.store v.store := by
  obtain ⟨states, hhistory, hstates⟩ := h
  cases states with
  | nil =>
      rw [World.store_eq_of_history_eq hhistory]
      exact hrefl w.store
  | cons s states =>
      simp only [World.history, List.cons_append, List.cons.injEq] at hhistory
      rw [hhistory.1]
      exact hstates s (by simp)

/-- States that follow others must stand in the relation to the state at the beginning. -/
theorem World.LeadsTo.append {R' : Store → Store → Prop} (hv : w.LeadsTo R v)
    (hu : v.LeadsTo R' u) (h : ∀ s, R' v.store s → R w.store s) : w.LeadsTo R u := by
  obtain ⟨before, hbefore, hR⟩ := hv
  obtain ⟨after, hafter, hR'⟩ := hu
  refine ⟨after ++ before, by rw [hafter, hbefore, List.append_assoc], ?_⟩
  intro s hs
  rcases List.mem_append.mp hs with hs | hs
  · exact h s (hR' s hs)
  · exact hR s hs

theorem World.LeadsTo.mono {R' : Store → Store → Prop} (h : w.LeadsTo R v)
    (hR : ∀ {s}, R w.store s → R' w.store s) : w.LeadsTo R' v := by
  obtain ⟨states, hhistory, hstates⟩ := h
  exact ⟨states, hhistory, fun s hs => hR (hstates s hs)⟩

/-- No earlier state is forgotten on the way. -/
theorem World.LeadsTo.mem_history {s : Store} (h : w.LeadsTo R v) (hs : s ∈ w.history) :
    s ∈ v.history := by
  obtain ⟨states, hhistory, -⟩ := h
  rw [hhistory]
  exact List.mem_append_right states hs

end LeadsTo

namespace Effect

variable {α β : Type}

section Performing

variable (around : Surroundings) (w : World)

@[simp] theorem perform_pure (x : α) :
    (pure x : Effect α).perform around w = (.ok x, w) := rfl

@[simp] theorem perform_throw (f : Failure) :
    (throw f : Effect α).perform around w = (.error f, w) := rfl

@[simp] theorem perform_read :
    (read : Effect Surroundings).perform around w = (.ok around, w) := rfl

@[simp] theorem perform_get :
    (get : Effect World).perform around w = (.ok w, w) := rfl

@[simp] theorem perform_modify (g : World → World) :
    (modify g : Effect PUnit).perform around w = (.ok ⟨⟩, g w) := rfl

/-- A sequence goes on where its first part ended, and ends with it if that failed. -/
theorem perform_bind (a : Effect α) (f : α → Effect β) :
    (a >>= f).perform around w =
      match a.perform around w with
      | (.ok x, v) => (f x).perform around v
      | (.error e, v) => (.error e, v) := by
  simp only [perform, bind, ReaderT.bind, EStateM.bind]
  cases a around w <;> rfl

theorem perform_bind_ok {a : Effect α} {x : α} {v : World}
    (h : a.perform around w = (.ok x, v)) (f : α → Effect β) :
    (a >>= f).perform around w = (f x).perform around v := by
  rw [perform_bind, h]

variable {around w} in
/-- A sequence that ends with a value does so at each of its parts. -/
theorem ok_of_bind {a : Effect α} {f : α → Effect β} {y : β} {v : World}
    (h : (a >>= f).perform around w = (.ok y, v)) :
    ∃ x u, a.perform around w = (.ok x, u) ∧ (f x).perform around u = (.ok y, v) := by
  rw [perform_bind] at h
  cases hrun : a.perform around w with
  | mk result u =>
      rw [hrun] at h
      cases result with
      | error e => cases h
      | ok x => exact ⟨x, u, rfl, h⟩

variable {around w} in
/-- The world in which an effect ends with a value. -/
theorem exists_eq_of_fst_eq_ok {a : Effect α} {x : α} (h : (a.perform around w).1 = .ok x) :
    ∃ v, v = (a.perform around w).2 ∧ a.perform around w = (.ok x, v) :=
  ⟨_, rfl, Prod.ext h rfl⟩

@[simp] theorem perform_attempt (a : Effect α) :
    (attempt a).perform around w =
      (.ok (a.perform around w).1, (a.perform around w).2) := by
  simp only [perform, attempt]
  cases a around w <;> rfl

@[simp] theorem perform_refuse (errno : Errno) (paths : List Text) :
    (refuse errno paths : Effect α).perform around w =
      (.error (.system { errno, paths }), w) := rfl

@[simp] theorem perform_settle (x : Except Failure α) :
    (settle x).perform around w = (x, w) := by
  cases x <;> rfl

variable {around w} in
theorem settle_ok {x : Except Failure α} {a : α} {v : World}
    (h : (settle x).perform around w = (.ok a, v)) : x = .ok a ∧ v = w := by
  rw [perform_settle] at h
  cases h
  exact ⟨rfl, rfl⟩

@[simp] theorem perform_commit (s : Store) :
    (commit s).perform around w = (.ok ⟨⟩, w.moved s) := rfl

@[simp] theorem perform_note (level : Log.Level) (source : Log.Source) (message : Text)
    (values : List (Text × Log.Value)) :
    (note level source message values).perform around w =
      (.ok ⟨⟩, w.noted { level, source, message, values }) := rfl

end Performing

/-- An effect that leaves the file system and its history alone. -/
def Quiet (a : Effect α) : Prop :=
  ∀ around w, (a.perform around w).2.history = w.history

section Quiet

theorem Quiet.store_eq {a : Effect α} (h : Quiet a)
    (around : Surroundings) (w : World) :
    (a.perform around w).2.store = w.store :=
  World.store_eq_of_history_eq (h around w)

theorem quiet_pure (x : α) : Quiet (pure x : Effect α) :=
  fun _ _ => rfl

theorem quiet_throw (f : Failure) : Quiet (throw f : Effect α) :=
  fun _ _ => rfl

theorem quiet_read : Quiet (read : Effect Surroundings) :=
  fun _ _ => rfl

theorem quiet_get : Quiet (get : Effect World) :=
  fun _ _ => rfl

theorem quiet_refuse (errno : Errno) (paths : List Text) :
    Quiet (refuse errno paths : Effect α) :=
  fun _ _ => rfl

theorem quiet_modify {g : World → World}
    (h : ∀ w, (g w).history = w.history) :
    Quiet (modify g : Effect PUnit) :=
  fun _ w => h w

theorem quiet_settle (x : Except Failure α) : Quiet (settle x) := by
  intro around w
  rw [perform_settle]

theorem quiet_note (level : Log.Level) (source : Log.Source) (message : Text)
    (values : List (Text × Log.Value)) :
    Quiet (note level source message values) :=
  fun _ _ => rfl

theorem quiet_print (s : Text) : Quiet (print s) :=
  fun _ _ => rfl

theorem quiet_attempt {a : Effect α} (h : Quiet a) : Quiet (attempt a) := by
  intro around w
  rw [perform_attempt]
  exact h around w

theorem quiet_bind {a : Effect α} {f : α → Effect β}
    (ha : Quiet a) (hf : ∀ x, Quiet (f x)) :
    Quiet (a >>= f) := by
  intro around w
  have h := ha around w
  rw [perform_bind]
  cases hr : a.perform around w with
  | mk result v =>
      rw [hr] at h
      cases result with
      | ok x => exact (hf x around v).trans h
      | error e => exact h

theorem perform_discard (a : Effect α) (around : Surroundings) (w : World) :
    (discard a).perform around w = (a >>= fun _ => pure ⟨⟩).perform around w := by
  have hrun : (discard a : Effect PUnit) around w =
      EStateM.map (fun _ => ⟨⟩) (a around) w := rfl
  simp only [perform, hrun, bind, ReaderT.bind, EStateM.map, EStateM.bind]
  cases a around w <;> rfl

theorem quiet_discard {a : Effect α} (h : Quiet a) : Quiet (discard a) := by
  intro around w
  rw [perform_discard]
  exact quiet_bind h (fun _ => quiet_pure _) around w

theorem quiet_forM {f : β → Effect PUnit} (hf : ∀ x, Quiet (f x)) :
    ∀ xs : List β, Quiet (xs.forM f)
  | [] => quiet_pure _
  | x :: xs => quiet_bind (hf x) fun _ => quiet_forM hf xs

end Quiet

/-- An effect whose ending and whose store afterwards depend on the store alone. -/
def LooksAtStoreOnly (a : Effect α) : Prop :=
  ∀ around (w v : World), w.store = v.store →
    (a.perform around w).1 = (a.perform around v).1 ∧
    (a.perform around w).2.store = (a.perform around v).2.store

section LooksAtStoreOnly

theorem looksAtStoreOnly_pure (x : α) :
    LooksAtStoreOnly (pure x : Effect α) :=
  fun _ _ _ h => ⟨rfl, h⟩

theorem looksAtStoreOnly_throw (f : Failure) :
    LooksAtStoreOnly (throw f : Effect α) :=
  fun _ _ _ h => ⟨rfl, h⟩

theorem looksAtStoreOnly_refuse (errno : Errno) (paths : List Text) :
    LooksAtStoreOnly (refuse errno paths : Effect α) :=
  fun _ _ _ h => ⟨rfl, h⟩

theorem looksAtStoreOnly_read :
    LooksAtStoreOnly (read : Effect Surroundings) :=
  fun _ _ _ h => ⟨rfl, h⟩

/-- Going on with what is made of the present store. -/
theorem looksAtStoreOnly_get_bind {f : World → Effect β} {g : Store → Effect β}
    (hf : ∀ w, f w = g w.store) (hg : ∀ s, LooksAtStoreOnly (g s)) :
    LooksAtStoreOnly (get >>= f) := by
  intro around w v h
  have hw : (get >>= f : Effect β).perform around w = (g w.store).perform around w := by
    rw [perform_bind, perform_get]
    exact congrArg (fun a => Effect.perform a around w) (hf w)
  have hv : (get >>= f : Effect β).perform around v = (g w.store).perform around v := by
    rw [perform_bind, perform_get, h]
    exact congrArg (fun a => Effect.perform a around v) (hf v)
  rw [hw, hv]
  exact hg w.store around w v h

theorem looksAtStoreOnly_commit (s : Store) :
    LooksAtStoreOnly (commit s) :=
  fun _ _ _ _ => ⟨rfl, rfl⟩

theorem looksAtStoreOnly_attempt {a : Effect α} (h : LooksAtStoreOnly a) :
    LooksAtStoreOnly (attempt a) := by
  intro around w v hs
  obtain ⟨hr, hstore⟩ := h around w v hs
  rw [perform_attempt, perform_attempt]
  exact ⟨congrArg Except.ok hr, hstore⟩

theorem looksAtStoreOnly_bind {a : Effect α} {f : α → Effect β}
    (ha : LooksAtStoreOnly a) (hf : ∀ x, LooksAtStoreOnly (f x)) :
    LooksAtStoreOnly (a >>= f) := by
  intro around w v hs
  obtain ⟨hr, hstore⟩ := ha around w v hs
  rw [perform_bind, perform_bind]
  cases hw : a.perform around w with
  | mk result w' =>
      cases hv : a.perform around v with
      | mk result' v' =>
          rw [hw, hv] at hr hstore
          obtain rfl : result = result' := hr
          cases result with
          | ok x => exact hf x around w' v' hstore
          | error e => exact ⟨rfl, hstore⟩

end LooksAtStoreOnly

end Effect
end NoteTemplates
