import NoteTemplates.Proofs.Operations

/-!
# Runs of operations

A run is a list of turns. Each turn is one operation of a notebook, with its own
surroundings, which may make calls fail, and its own replies, which may be failures.

A file that is there before a turn is there after it with its bytes and its mode, unless
the turn deletes the template whose file it is. By induction this holds for whole runs.
-/

namespace NoteTemplates

open Effect

/-- An effect after which the file system stands in a relation to what it was before. -/
def Leaves {α : Type} (R : Surroundings → Store → Store → Prop) (a : Effect α) : Prop :=
  ∀ around w, R around w.store (a.perform around w).2.store

section Leaves

variable {α : Type} {R : Surroundings → Store → Store → Prop}

theorem Effect.Quiet.leaves {a : Effect α} (h : Quiet a) (hrefl : ∀ around s, R around s s) :
    Leaves R a := by
  intro around w
  rw [h.store_eq]
  exact hrefl around w.store

/-- What holds of writing a note holds of an operation that writes one. -/
theorem WritesOnce.leaves {a : Effect Path} (h : WritesOnce a)
    (hrefl : ∀ around s, R around s s)
    (hcreate : ∀ content target calledOff,
      Leaves R (Materialization.create content target calledOff)) : Leaves R a := by
  intro around w
  rcases h around w with ⟨f, v, hf, hv⟩ | ⟨content, target, calledOff, v, hv, hrest⟩
  · rw [hf, World.store_eq_of_history_eq hv]
    exact hrefl around w.store
  · have hnote := hcreate content target calledOff around v
    rw [World.store_eq_of_history_eq hv] at hnote
    rcases hrest with ⟨f, u, hu, hf⟩ | ⟨u, hu, hhistory, -⟩
    · rw [hf]
      rw [hu] at hnote
      exact hnote
    · rw [World.store_eq_of_history_eq hhistory]
      rw [hu] at hnote
      exact hnote

theorem leaves_discard {a : Effect α} (h : Leaves R a) :
    Leaves R (do
      discard a
      return false) := by
  intro around w
  have hleft := h around w
  rw [perform_bind, perform_discard, perform_bind]
  cases hrun : a.perform around w with
  | mk result v =>
      rw [hrun] at hleft
      cases result <;> exact hleft

end Leaves

/-- Every file of the first store is in the second, as it was. -/
def KeepsFiles (s t : Store) : Prop :=
  ∀ p mode bytes, s.get? p = some (.file mode bytes) → t.get? p = some (.file mode bytes)

theorem keepsFiles_create (content : Text) (target : Path) (calledOff : Bool) :
    Leaves (fun _ => KeepsFiles) (Materialization.create content target calledOff) := by
  intro around w p mode bytes hp
  rcases Materialization.create_cases around w content target calledOff with
    ⟨f, u, hf, happroach, -⟩ | ⟨landing, v, hok, hwritten⟩
  · rw [hf]
    have hunderway := happroach.leadsTo.store fun s =>
      Materialization.Underway.refl around target s
    exact hunderway.keeps p _ hp
  · rw [hok]
    exact hwritten.get? hp rfl

namespace Notebook

/-- What can be done with a notebook. -/
inductive Operation where
  | load
  | find (query : Text)
  | createNote (t : Template) (openEditor calledOff : Bool) (now : Option Moment)
  | scaffold (name : Text) (priority : Int) (category : Text) (openEditor : Bool)
  | edit (query : Text)
  | delete (query : Text)

/-- Does an operation; whether it deleted a template. -/
def Operation.run (book : Notebook) : Operation → Effect Bool
  | .load => do
    discard book.load
    return false
  | .find query => do
    discard (book.find query)
    return false
  | .createNote t openEditor calledOff now => do
    discard (book.createNote t openEditor calledOff now)
    return false
  | .scaffold name priority category openEditor => do
    discard (book.scaffold name priority category openEditor)
    return false
  | .edit query => do
    discard (book.edit query)
    return false
  | .delete query => book.delete query

/-- One operation of a run, with what surrounds it and the replies that there are for it. -/
structure Turn where
  book : Notebook
  around : Surroundings
  replies : List Reply
  operation : Operation

namespace Turn

/-- The world in which a turn begins. -/
def enter (turn : Turn) (w : World) : World :=
  { w with replies := turn.replies }

/-- How a turn ends and the world it leaves. -/
def outcome (turn : Turn) (w : World) : Except Failure Bool × World :=
  (turn.operation.run turn.book).perform turn.around (turn.enter w)

/-- The world after some turns. -/
def run (turns : List Turn) (w : World) : World :=
  turns.foldl (fun w turn => (turn.outcome w).2) w

/--
A turn deletes what is at a place: it ends with the answer that a template was deleted, and
the place is that of the file of the template that was looked up.
-/
def Deletes (turn : Turn) (w : World) (p : Place) : Prop :=
  ∃ query, turn.operation = .delete query ∧
    (turn.outcome w).1 = .ok true ∧
    turn.book.FileAt turn.around (turn.enter w) query p

/--
After a turn the file system stands in any relation that is reflexive and that writing a note
leaves it in, or the turn deletes an entry that is no directory.
-/
theorem outcome_cases {R : Surroundings → Store → Store → Prop}
    (hrefl : ∀ around s, R around s s)
    (hcreate : ∀ content target calledOff,
      Leaves R (Materialization.create content target calledOff)) (turn : Turn) (w : World) :
    R turn.around w.store (turn.outcome w).2.store ∨
      ∃ p, turn.Deletes w p ∧ w.store.get? p ≠ some .directory ∧
        (turn.outcome w).2.store = w.store.erase p := by
  obtain ⟨book, around, replies, operation⟩ := turn
  have hleft {a : Effect Bool} (ha : Leaves R a) :
      R around w.store (a.perform around { w with replies := replies }).2.store :=
    ha around { w with replies := replies }
  cases operation with
  | load => exact Or.inl (hleft (leaves_discard (book.calm_load.quiet.leaves hrefl)))
  | find query => exact Or.inl (hleft (leaves_discard ((book.calm_find query).quiet.leaves hrefl)))
  | createNote t openEditor calledOff now =>
      have hwrites := book.writesOnce_createNote t openEditor calledOff now
      exact Or.inl (hleft (leaves_discard (hwrites.leaves hrefl hcreate)))
  | scaffold name priority category openEditor =>
      have hwrites := book.writesOnce_scaffold name priority category openEditor
      exact Or.inl (hleft (leaves_discard (hwrites.leaves hrefl hcreate)))
  | edit query => exact Or.inl (hleft (leaves_discard ((book.calm_edit query).quiet.leaves hrefl)))
  | delete query =>
      rcases book.delete_cases query around { w with replies := replies } with
        hquiet | ⟨p, v, hat, hdir, hdeleted, hstore⟩
      · left
        rw [outcome, Operation.run, enter, World.store_eq_of_history_eq hquiet]
        exact hrefl around w.store
      · right
        have houtcome : outcome ⟨book, around, replies, .delete query⟩ w = (.ok true, v) :=
          hdeleted
        refine ⟨p, ⟨query, rfl, ?_, hat⟩, hdir, ?_⟩
        · rw [houtcome]
        · rw [houtcome, hstore]

/-- A turn keeps every file but the one that it deletes. -/
theorem get?_outcome (turn : Turn) (w : World) {p : Place} {mode : Nat} {bytes : Bytes}
    (hp : w.store.get? p = some (.file mode bytes)) :
    (turn.outcome w).2.store.get? p = some (.file mode bytes) ∨ turn.Deletes w p := by
  rcases turn.outcome_cases (R := fun _ => KeepsFiles) (fun _ _ _ _ _ h => h)
    keepsFiles_create w with hkept | ⟨q, hdeletes, -, hstore⟩
  · exact Or.inl (hkept p mode bytes hp)
  · by_cases hqp : p = q
    · right
      rwa [hqp]
    · left
      rwa [hstore, Store.get?_erase_of_ne _ hqp]

theorem run_append_singleton (turns : List Turn) (turn : Turn) (w : World) :
    run (turns ++ [turn]) w = (turn.outcome (run turns w)).2 := by
  simp [run]

/--
Nothing is lost over whole runs. Every file that is there before some turn of a run is there
after it as it was, unless the turn deletes it; so every file that is there before a run is
there after it, unless one of the turns deletes it.
-/
theorem files_survive (turns : List Turn) (w : World) :
    (∀ before turn after, turns = before ++ turn :: after →
      ∀ p mode bytes, (run before w).store.get? p = some (.file mode bytes) →
        (run (before ++ [turn]) w).store.get? p = some (.file mode bytes) ∨
          turn.Deletes (run before w) p) ∧
    ∀ p mode bytes, w.store.get? p = some (.file mode bytes) →
      (run turns w).store.get? p = some (.file mode bytes) ∨
        ∃ before turn after, turns = before ++ turn :: after ∧
          (run before w).store.get? p = some (.file mode bytes) ∧
          turn.Deletes (run before w) p := by
  constructor
  · intro before turn after _ p mode bytes hp
    rw [run_append_singleton]
    exact turn.get?_outcome _ hp
  · intro p mode bytes hp
    induction turns using List.reverseRecOn with
    | nil => exact Or.inl hp
    | append_singleton turns turn ih =>
        rcases ih with hkept | ⟨before, other, after, rfl, hthere, hdeletes⟩
        · rcases turn.get?_outcome _ hkept with hstill | hdeletes
          · left
            rwa [run_append_singleton]
          · exact Or.inr ⟨turns, turn, [], rfl, hkept, hdeletes⟩
        · exact Or.inr ⟨before, other, after ++ [turn], by simp, hthere, hdeletes⟩

theorem files_survive_scaffold :
    let w : World :=
      { store := { entries := [(["n"], .directory), (["n", "x"], .file 0o600 [1])] } }
    let turn : Turn :=
      { book := { settings := { base := Path.ofText "/n" } }
        around := .plain
        replies := []
        operation := .scaffold "a" 1 "c" false }
    (turn.outcome w).1 = .ok false ∧
      (run [turn] w).store.get? ["n", "x"] = some (.file 0o600 [1]) := by
  intro w turn
  refine ⟨by decide +kernel, ?_⟩
  rcases (files_survive [turn] w).2 ["n", "x"] 0o600 [1] rfl with
    hkept | ⟨before, other, after, hturns, -, query, hdelete, -⟩
  · exact hkept
  · have hmem : other ∈ [turn] := by simp [hturns]
    rw [List.mem_singleton.mp hmem] at hdelete
    cases hdelete

end Turn
end Notebook
end NoteTemplates
