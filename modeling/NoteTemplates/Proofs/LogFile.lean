import NoteTemplates.Program
import NoteTemplates.Proofs.Directories
import NoteTemplates.Proofs.QuietOperations

/-!
# The file of the log

Before a command is done, the file of the log is made if the settings name one and it is not
there. All that this adds are directories on the way to the file, and the empty file where its
path leads. Nothing is read or shown.
-/

namespace NoteTemplates
namespace Program

open Effect

/--
The second store is the first one with directories on the way to the file of a log, and
perhaps with the file itself, which is empty.
-/
def OnlyLogNew (around : Surroundings) (file : Path) (s t : Store) : Prop :=
  ∃ middle, Store.Grows around.base file.parent s middle ∧
    (t = middle ∨ ∃ place,
      middle.find around.base true (file.absolute around.directory).collapse.toText =
        .ok (.vacant place) ∧
      t = middle.insert place (.file Disk.defaultMode []))

section Parents

variable {around : Surroundings} {p : Path}

theorem calm_unlessThere (p : Path) (e : SystemError) :
    Calm Failure.IsOwn (makeParents.unlessThere p e) := by
  refine calm_bind ((Disk.calm_entryOnWay? _).mono fun _ h => h.isOwn) fun entry => ?_
  split
  · exact calm_pure _
  · exact calm_throw id

theorem grows_makeDirectory (around : Surroundings) (p : Path) (w : World) :
    Store.Grows around.base p w.store
      ((Disk.makeDirectory p.toText).perform around w).2.store := by
  rcases Disk.makeDirectory_cases around w p with ⟨f, hf⟩ | ⟨place, hvacant, hok⟩
  · rw [hf]
    exact .refl
  · rw [hok]
    exact .made .refl (Path.OnTheWay.refl p) hvacant

theorem grows_unlessThere (p : Path) (e : SystemError) (w : World) :
    Store.Grows around.base p w.store
      ((makeParents.unlessThere p e).perform around w).2.store := by
  rw [(calm_unlessThere p e).quiet.store_eq]
  exact .refl

/-- An attempt to make a directory, and what is done about it. -/
theorem grows_attempt {g : Except Failure Unit → Effect Unit}
    (hg : ∀ result w, Store.Grows around.base p w.store ((g result).perform around w).2.store)
    (w : World) :
    Store.Grows around.base p w.store
      ((attempt (Disk.makeDirectory p.toText) >>= g).perform around w).2.store := by
  rw [perform_bind, perform_attempt]
  exact (grows_makeDirectory around p w).trans (hg _ _)

/-- By induction on how many directories may be missing, only directories on the way are new. -/
theorem grows_makeParents (around : Surroundings) (depth : Nat) (p : Path) (w : World) :
    Store.Grows around.base p w.store ((makeParents depth p).perform around w).2.store := by
  induction depth generalizing p w with
  | zero =>
      rw [makeParents]
      refine grows_attempt (fun result v => ?_) w
      split
      · exact .refl
      · split
        · cases p.parts <;> exact .refl
        · exact grows_unlessThere p _ v
      · exact .refl
  | succ depth ih =>
      rw [makeParents]
      refine grows_attempt (fun result v => ?_) w
      split
      · exact .refl
      · split
        · cases p.parts with
          | nil => exact .refl
          | cons part parts =>
              -- the directories above come first, then the directory is tried once more
              have hparent := (ih p.parent v).widen p.onTheWay_parent
              dsimp only
              rw [perform_bind]
              cases hrun : (makeParents depth p.parent).perform around v with
              | mk result u =>
                  rw [hrun] at hparent
                  cases result with
                  | error f => exact hparent
                  | ok =>
                      refine hparent.trans (grows_attempt (fun result x => ?_) u)
                      split
                      · exact grows_unlessThere p _ x
                      · exact .refl
                      · exact .refl
        · exact grows_unlessThere p _ v
      · exact .refl

theorem silent_makeParents (depth : Nat) (p : Path) :
    Silent Failure.IsOwn (makeParents depth p) := by
  have hmake (p : Path) := Disk.silent_makeDirectory p.toText
  have hthere (p : Path) (e : SystemError) := (calm_unlessThere p e).silent
  induction depth generalizing p with
  | zero =>
      rw [makeParents]
      refine silent_attempt_bind (hmake p) (fun _ => silent_pure _) fun f hf => ?_
      cases f with
      | system e =>
          dsimp only
          split
          · cases p.parts with
            | nil => exact silent_throw id
            | cons part parts => exact silent_throw id
          · exact hthere p e
      | _ => exact silent_throw hf.isOwn
  | succ depth ih =>
      rw [makeParents]
      refine silent_attempt_bind (hmake p) (fun _ => silent_pure _) fun f hf => ?_
      cases f with
      | system e =>
          dsimp only
          split
          · cases p.parts with
            | nil => exact silent_throw id
            | cons part parts =>
                refine silent_bind (ih p.parent) fun _ => ?_
                refine silent_attempt_bind (hmake p) (fun _ => silent_pure _) fun f hf => ?_
                cases f with
                | system e => exact hthere p e
                | _ => exact silent_throw hf.isOwn
          · exact hthere p e
      | _ => exact silent_throw hf.isOwn

end Parents

/-- Nothing is read or shown while the file of the log is made. -/
theorem silent_openLog (s : Settings) : Silent Failure.IsOwn (openLog s) := by
  unfold openLog
  split
  · exact silent_pure _
  · refine silent_bind silent_read fun around => ?_
    refine silent_bind (silent_settle (Path.failsAs_expandUser _ _)) fun file => ?_
    refine silent_bind (silent_makeParents _ _) fun _ => ?_
    exact (Disk.silent_openToExtend _).mono fun _ h => h.isOwn

/-- What is new once the log is open, if it is kept in a file. -/
theorem openLog_cases {s : Settings} {around : Surroundings} {u w : World}
    (h : (openLog s).perform around w = (.ok (), u)) :
    (s.logFile = none ∧ u.store = w.store) ∨
      ∃ named file, s.logFile = some named ∧
        named.expandUser around.environment = .ok file ∧
        OnlyLogNew around file w.store u.store := by
  unfold openLog at h
  cases hnamed : s.logFile with
  | none =>
      rw [hnamed] at h
      cases h
      exact Or.inl ⟨rfl, rfl⟩
  | some named =>
      rw [hnamed] at h
      dsimp only at h
      rw [perform_bind_ok _ _ (perform_read _ _)] at h
      obtain ⟨file, v, hsettled, hmade⟩ := ok_of_bind h
      obtain ⟨hfile, rfl⟩ := settle_ok hsettled
      obtain ⟨_, x, hparents, hopened⟩ := ok_of_bind hmade
      have hgrows := grows_makeParents around Nesting.parents.limit file.parent v
      rw [hparents] at hgrows
      have hcases := Disk.openToExtend_cases around x
        (file.absolute around.directory).collapse.toText
      rw [hopened] at hcases
      exact Or.inr ⟨named, file, rfl, hfile, x.store, hgrows, hcases⟩

end Program
end NoteTemplates
