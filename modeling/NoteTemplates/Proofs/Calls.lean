import NoteTemplates.Proofs.Paths
import NoteTemplates.Proofs.Silence

/-!
# What the calls to the disk do

One statement for each call: a call that fails leaves the world as it was, and one that
succeeds changes the one place where its path led. The calls that only look are calm, those
that change something are silent; all fail with failures of the file system only.
-/

namespace NoteTemplates

/-- The entry at the end of the walk of a path; nothing if it is refused or nothing is there. -/
def Store.entryAt? (s : Store) (base : Place) (follow : Bool) (path : Text) : Option Entry :=
  match s.find base follow path with
  | .ok (.found _ e) => some e
  | _ => none

theorem Store.entryAt?_eq_some {s : Store} {base : Place} {follow : Bool} {path : Text}
    {e : Entry} :
    s.entryAt? base follow path = some e ↔
      ∃ p, s.find base follow path = .ok (.found p e) := by
  unfold Store.entryAt?
  split
  · rename_i heq
    simp [heq]
  · rename_i hno
    simp only [reduceCtorEq, false_iff, not_exists]
    exact fun p h => hno p e h

/-- The place of the working directory. -/
def Surroundings.base (around : Surroundings) : Place :=
  around.directory.parts

/-- No call of a kind is made to fail. -/
def Surroundings.Spares (around : Surroundings) (call : Call) : Prop :=
  ∀ fault ∈ around.faults, fault.call ≠ call

/-- Surroundings at the root in which no call fails. -/
def Surroundings.plain : Surroundings :=
  { environment := {}
    directory := ⟨.root, []⟩
    clock := ⟨2024, 5, 6, 7, 8⟩
    screen := .folding 80 (by decide) fun _ => .ok ()
    suffixes := ["a1b2c3d4"] }

theorem Surroundings.spares_plain (call : Call) : plain.Spares call := by
  intro fault hfault
  cases hfault

namespace Disk

open Effect

variable {around : Surroundings} {w : World}

section Looking

theorem perform_look (follow : Bool) (path : Text) :
    (look follow path).perform around w =
      (.ok (w.store.find around.base follow path), w) := rfl

theorem perform_checkPath (path : Text) :
    (checkPath path).perform around w =
      if '\x00' ∈ path then (.error .embeddedNull, w) else (.ok (), w) := by
  unfold checkPath
  split <;> rfl

/-- A call is made to fail in every world or in none, and then nothing else happens. -/
theorem checkFault_cases (around : Surroundings) (call : Call) (paths : List Text) :
    (∃ f, ∀ w, (checkFault call paths).perform around w = (.error f, w)) ∨
      ∀ w, (checkFault call paths).perform around w = (.ok (), w) := by
  simp only [checkFault, perform_bind, perform_read]
  split
  · exact Or.inl ⟨_, fun _ => rfl⟩
  · exact Or.inr fun _ => rfl

theorem checkFault_of_spares {call : Call} (h : around.Spares call) (paths : List Text) :
    (checkFault call paths).perform around w = (.ok (), w) := by
  simp only [checkFault, perform_bind, perform_read]
  split
  · rename_i fault hfault
    have hcall := List.find?_some hfault
    simp only [Bool.and_eq_true, decide_eq_true_eq] at hcall
    exact absurd hcall.1 (h fault (List.mem_of_find?_eq_some hfault))
  · rfl

theorem perform_entryAt? (path : Text) :
    (entryAt? path).perform around w =
      (.ok (if '\x00' ∈ path then none else w.store.entryAt? around.base true path), w) := by
  unfold entryAt?
  split
  · rfl
  · simp only [perform_bind, perform_look, Store.entryAt?]
    split <;> simp_all

theorem perform_present (path : Text) :
    (present path).perform around w =
      (.ok (decide ('\x00' ∉ path) && (w.store.entryAt? around.base true path).isSome), w) := by
  unfold present
  rw [perform_bind, perform_entryAt?]
  by_cases h : '\x00' ∈ path <;> simp [h]

theorem perform_isDirectory (path : Text) :
    (isDirectory path).perform around w =
      (.ok (decide ('\x00' ∉ path) &&
        decide (w.store.entryAt? around.base true path = some .directory)), w) := by
  unfold isDirectory
  rw [perform_bind, perform_entryAt?]
  by_cases h : '\x00' ∈ path <;> simp [h]

end Looking

section Changing

/-- A directory is made at the vacant place where its path leads. -/
theorem makeDirectory_cases (around : Surroundings) (w : World) (p : Path) :
    (∃ f, (makeDirectory p.toText).perform around w = (.error f, w)) ∨
      ∃ place, w.store.find around.base false p.toText = .ok (.vacant place) ∧
        (makeDirectory p.toText).perform around w =
          (.ok (), w.moved (w.store.insert place .directory)) := by
  simp only [makeDirectory, p.dropSlashes_toText, perform_bind, perform_checkPath]
  by_cases hnul : '\x00' ∈ p.toText
  · exact Or.inl ⟨.embeddedNull, by simp only [if_pos hnul]⟩
  · simp only [if_neg hnul, perform_look]
    split
    · rename_i place heq
      exact Or.inr ⟨place, heq, rfl⟩
    · exact Or.inl ⟨_, rfl⟩
    · exact Or.inl ⟨_, rfl⟩

/-- A temporary file is made empty at the vacant place of one of the names that are tried. -/
theorem makeTemporary_cases (around : Surroundings) (w : World)
    (directory beginning : Text) :
    (∃ f, (makeTemporary directory beginning).perform around w = (.error f, w)) ∨
      ∃ suffix ∈ around.suffixes, ∃ place,
        '\x00' ∉ inside directory (beginning ++ suffix) ∧
        w.store.find around.base false (inside directory (beginning ++ suffix)) =
          .ok (.vacant place) ∧
        (makeTemporary directory beginning).perform around w =
          (.ok (inside directory (beginning ++ suffix)),
            w.moved (w.store.insert place (.file privateMode []))) := by
  have htry : ∀ suffixes : List Text,
      (∃ f, (makeTemporary.tryAll directory beginning suffixes).perform around w =
        (.error f, w)) ∨
      ∃ suffix ∈ suffixes, ∃ place,
        '\x00' ∉ inside directory (beginning ++ suffix) ∧
        w.store.find around.base false (inside directory (beginning ++ suffix)) =
          .ok (.vacant place) ∧
        (makeTemporary.tryAll directory beginning suffixes).perform around w =
          (.ok (inside directory (beginning ++ suffix)),
            w.moved (w.store.insert place (.file privateMode []))) := by
    intro suffixes
    induction suffixes with
    | nil => exact Or.inl ⟨_, rfl⟩
    | cons suffix suffixes ih =>
        simp only [makeTemporary.tryAll, perform_bind, perform_checkPath]
        by_cases hnul : '\x00' ∈ inside directory (beginning ++ suffix)
        · exact Or.inl ⟨.embeddedNull, by simp only [if_pos hnul]⟩
        · simp only [if_neg hnul, perform_look]
          split
          · rename_i place heq
            exact Or.inr ⟨suffix, by simp, place, hnul, heq, rfl⟩
          · rcases ih with hfail | ⟨other, hmem, hrest⟩
            · exact Or.inl hfail
            · exact Or.inr ⟨other, by simp [hmem], hrest⟩
          · exact Or.inl ⟨_, rfl⟩
  simp only [makeTemporary, perform_bind, perform_read]
  exact htry around.suffixes

/-- A file that may be written gets other bytes and keeps its mode. -/
theorem writeFile_of_found {path : Text} {place : Place} {mode : Nat} {old : Bytes}
    (h : w.store.find around.base true path = .ok (.found place (.file mode old)))
    (hmode : permits writeBit mode = true) (bytes : Bytes) :
    (∃ f, (writeFile path bytes).perform around w = (.error f, w)) ∨
      (writeFile path bytes).perform around w =
        (.ok (), w.moved (w.store.insert place (.file mode bytes))) := by
  rw [writeFile, perform_bind]
  rcases checkFault_cases around .openFile [path] with ⟨f, hf⟩ | hok
  · exact Or.inl ⟨f, by rw [hf]⟩
  · rw [hok]
    simp only [overwrite, perform_bind, perform_checkPath]
    by_cases hnul : '\x00' ∈ path
    · exact Or.inl ⟨.embeddedNull, by simp only [if_pos hnul]⟩
    · right
      simp only [if_neg hnul, perform_look, h, hmode, if_true]
      rfl

/-- A file keeps its bytes when it gets another mode. -/
theorem setMode_of_found {path : Text} {place : Place} {old : Nat} {bytes : Bytes}
    (h : w.store.find around.base true path = .ok (.found place (.file old bytes)))
    (mode : Nat) :
    (∃ f, (setMode path mode).perform around w = (.error f, w)) ∨
      (setMode path mode).perform around w =
        (.ok (), w.moved (w.store.insert place (.file (mode &&& modeBits) bytes))) := by
  simp only [setMode, perform_bind, perform_checkPath]
  by_cases hnul : '\x00' ∈ path
  · exact Or.inl ⟨.embeddedNull, by simp only [if_pos hnul]⟩
  · right
    simp only [if_neg hnul, perform_look, h]
    rfl

/--
A file that is moved disappears from its place, and is then at the place where the target
leads when its last name is not followed; no directory was there.
-/
theorem replace_of_found {source target : Text} {origin : Place} {e : Entry}
    (h : w.store.find around.base false source = .ok (.found origin e)) :
    (∃ f, (replace source target).perform around w = (.error f, w)) ∨
      ∃ landing, '\x00' ∉ target ∧
        w.store.find around.base false target = .ok landing ∧
        (∀ p, landing ≠ .found p .directory) ∧
        (replace source target).perform around w =
          (.ok (), w.moved ((w.store.erase origin).insert landing.place e)) := by
  rw [replace, perform_bind]
  rcases checkFault_cases around .replace [source, target] with
    ⟨f, hf⟩ | hok
  · exact Or.inl ⟨f, by rw [hf]⟩
  · rw [hok]
    simp only [perform_bind, perform_checkPath]
    by_cases hsource : '\x00' ∈ source
    · exact Or.inl ⟨.embeddedNull, by simp only [if_pos hsource]⟩
    · by_cases htarget : '\x00' ∈ target
      · exact Or.inl ⟨.embeddedNull, by simp only [if_neg hsource, if_pos htarget]⟩
      · simp only [if_neg hsource, if_neg htarget, perform_bind, perform_look, h]
        cases hfind : w.store.find around.base false target with
        | error errno => exact Or.inl ⟨_, rfl⟩
        | ok landing =>
            simp only
            split
            · exact Or.inl ⟨_, rfl⟩
            · split
              · exact Or.inl ⟨_, rfl⟩
              · rename_i place old hno
                refine Or.inr ⟨_, htarget, rfl, ?_, rfl⟩
                intro p heq
                cases heq
                exact hno rfl
              · exact Or.inr ⟨_, htarget, rfl, by simp, rfl⟩

/-- What is taken away is a file or a link where the path leads. -/
theorem remove_cases (around : Surroundings) (w : World) (path : Text) :
    (∃ f, (remove path).perform around w = (.error f, w)) ∨
      ∃ place e, '\x00' ∉ path ∧
        w.store.find around.base false path = .ok (.found place e) ∧ e ≠ .directory ∧
        (remove path).perform around w = (.ok (), w.moved (w.store.erase place)) := by
  rw [remove, perform_bind]
  rcases checkFault_cases around .remove [path] with ⟨f, hf⟩ | hok
  · exact Or.inl ⟨f, by rw [hf]⟩
  · rw [hok]
    simp only [perform_bind, perform_checkPath]
    by_cases hnul : '\x00' ∈ path
    · exact Or.inl ⟨.embeddedNull, by simp only [if_pos hnul]⟩
    · simp only [if_neg hnul, perform_look]
      split
      · exact Or.inl ⟨_, rfl⟩
      · rename_i place e hno heq
        exact Or.inr ⟨place, e, hnul, heq, hno, rfl⟩
      · exact Or.inl ⟨_, rfl⟩
      · exact Or.inl ⟨_, rfl⟩

/-- A file that is there is left alone, and an empty one is made at a vacant place. -/
theorem openToExtend_cases (around : Surroundings) (w : World) (path : Text) :
    ((openToExtend path).perform around w).2.store = w.store ∨
      ∃ place, w.store.find around.base true path = .ok (.vacant place) ∧
        ((openToExtend path).perform around w).2.store =
          w.store.insert place (.file defaultMode []) := by
  simp only [openToExtend, perform_bind, perform_checkPath]
  by_cases hnul : '\x00' ∈ path
  · exact Or.inl (by simp only [if_pos hnul])
  · simp only [if_neg hnul, perform_look]
    split
    · split <;> exact Or.inl rfl
    · rename_i place heq
      exact Or.inr ⟨place, heq, rfl⟩
    · exact Or.inl rfl
    · exact Or.inl rfl

/-- A file or a link is taken away if its removal is not made to fail. -/
theorem remove_of_found {path : Text} {place : Place} {e : Entry}
    (hspared : (checkFault .remove [path]).perform around w = (.ok (), w))
    (hnul : '\x00' ∉ path) (he : e ≠ .directory)
    (h : w.store.find around.base false path = .ok (.found place e)) :
    (remove path).perform around w = (.ok (), w.moved (w.store.erase place)) := by
  rw [remove, perform_bind, hspared]
  simp only [perform_bind, perform_checkPath, if_neg hnul, perform_look, h]
  cases e with
  | file mode bytes => rfl
  | directory => exact absurd rfl he
  | link target => rfl

end Changing

section Calm

variable {E : Failure → Prop}

theorem quiet_look (follow : Bool) (path : Text) : Quiet (look follow path) :=
  fun _ _ => rfl

theorem calm_look (follow : Bool) (path : Text) : Calm E (look follow path) :=
  calm_of_perform fun _ _ => ⟨_, rfl⟩

theorem calm_checkPath (path : Text) : Calm Failure.IsOfDisk (checkPath path) := by
  unfold checkPath
  split
  · exact calm_throw trivial
  · exact calm_pure _

theorem calm_checkFault (call : Call) (paths : List Text) :
    Calm Failure.IsOfDisk (checkFault call paths) := by
  refine calm_bind calm_read fun around => ?_
  dsimp only
  split
  · exact calm_refuse (fun _ => trivial) _ _
  · exact calm_pure _

theorem calm_entryAt? (path : Text) : Calm E (entryAt? path) :=
  calm_of_perform fun _ _ => ⟨_, perform_entryAt? path⟩

theorem calm_present (path : Text) : Calm E (present path) :=
  calm_of_perform fun _ _ => ⟨_, perform_present path⟩

theorem calm_isDirectory (path : Text) : Calm E (isDirectory path) :=
  calm_of_perform fun _ _ => ⟨_, perform_isDirectory path⟩

theorem calm_entryOnWay? (path : Text) : Calm Failure.IsOfDisk (entryOnWay? path) := by
  unfold entryOnWay?
  split
  · exact calm_pure _
  · refine calm_bind (calm_look true path) fun landing => ?_
    split
    · exact calm_pure _
    · exact calm_pure _
    · split
      · exact calm_pure _
      · exact calm_refuse (fun _ => trivial) _ _

theorem calm_contents (path : Text) : Calm Failure.IsOfDisk (contents path) := by
  refine calm_bind (calm_checkPath path) fun _ => ?_
  refine calm_bind (calm_look true path) fun landing => ?_
  split
  · split
    · exact calm_pure _
    · exact calm_refuse (fun _ => trivial) _ _
  · exact calm_refuse (fun _ => trivial) _ _
  · exact calm_refuse (fun _ => trivial) _ _
  · exact calm_refuse (fun _ => trivial) _ _

theorem calm_readFile (path : Text) : Calm Failure.IsOfDisk (readFile path) :=
  calm_bind (calm_checkFault _ _) fun _ => calm_contents path

theorem calm_list (path : Text) : Calm Failure.IsOfDisk (list path) := by
  refine calm_bind (calm_checkFault _ _) fun _ => ?_
  refine calm_bind (calm_checkPath path) fun _ => ?_
  refine calm_bind (calm_look true path) fun landing => ?_
  split
  · exact calm_bind calm_get fun _ => calm_pure _
  · exact calm_refuse (fun _ => trivial) _ _
  · exact calm_refuse (fun _ => trivial) _ _
  · exact calm_refuse (fun _ => trivial) _ _

theorem calm_isFile (path : Text) (e : Entry) : Calm Failure.IsOfDisk (isFile path e) := by
  cases e with
  | file mode bytes => exact calm_pure _
  | directory => exact calm_pure _
  | link target =>
      refine calm_bind (calm_look true path) fun landing => ?_
      split
      · exact calm_pure _
      · exact calm_pure _
      · split
        · exact calm_pure _
        · exact calm_refuse (fun _ => trivial) _ _

theorem calm_canRun (path : Text) : Calm E (canRun path) := by
  refine calm_bind (calm_entryAt? path) fun entry => ?_
  split
  · exact calm_pure _
  · exact calm_pure _

end Calm

section Silent

/-- Where one place is changed or the call is refused, nothing is said. -/
theorem silent_makeDirectory (path : Text) : Silent Failure.IsOfDisk (makeDirectory path) := by
  refine silent_bind (calm_checkPath path).silent fun _ => ?_
  refine silent_bind (calm_look _ _).silent fun landing => ?_
  split
  · exact silent_bind silent_get fun _ => silent_commit _
  · exact silent_refuse (fun _ => trivial) _ _
  · exact silent_refuse (fun _ => trivial) _ _

theorem silent_makeTemporary (directory beginning : Text) :
    Silent Failure.IsOfDisk (makeTemporary directory beginning) := by
  have htry (suffixes : List Text) :
      Silent Failure.IsOfDisk (makeTemporary.tryAll directory beginning suffixes) := by
    induction suffixes with
    | nil => exact silent_throw trivial
    | cons suffix suffixes ih =>
        refine silent_bind (calm_checkPath _).silent fun _ => ?_
        refine silent_bind (calm_look _ _).silent fun landing => ?_
        split
        · refine silent_bind silent_get fun _ => ?_
          exact silent_bind (silent_commit _) fun _ => silent_pure _
        · exact ih
        · exact silent_refuse (fun _ => trivial) _ _
  exact silent_bind silent_read fun around => htry around.suffixes

theorem silent_writeFile (path : Text) (bytes : Bytes) :
    Silent Failure.IsOfDisk (writeFile path bytes) := by
  refine silent_bind (calm_checkFault _ _).silent fun _ => ?_
  refine silent_bind (calm_checkPath path).silent fun _ => ?_
  refine silent_bind (calm_look _ _).silent fun landing => ?_
  split
  · split
    · exact silent_bind silent_get fun _ => silent_commit _
    · exact silent_refuse (fun _ => trivial) _ _
  · exact silent_bind silent_get fun _ => silent_commit _
  · exact silent_refuse (fun _ => trivial) _ _
  · exact silent_refuse (fun _ => trivial) _ _

theorem silent_openToExtend (path : Text) : Silent Failure.IsOfDisk (openToExtend path) := by
  refine silent_bind (calm_checkPath path).silent fun _ => ?_
  refine silent_bind (calm_look _ _).silent fun landing => ?_
  split
  · split
    · exact silent_pure _
    · exact silent_refuse (fun _ => trivial) _ _
  · exact silent_bind silent_get fun _ => silent_commit _
  · exact silent_refuse (fun _ => trivial) _ _
  · exact silent_refuse (fun _ => trivial) _ _

theorem silent_setMode (path : Text) (mode : Nat) :
    Silent Failure.IsOfDisk (setMode path mode) := by
  refine silent_bind (calm_checkPath path).silent fun _ => ?_
  refine silent_bind (calm_look _ _).silent fun landing => ?_
  split
  · exact silent_bind silent_get fun _ => silent_commit _
  · exact silent_pure _
  · exact silent_refuse (fun _ => trivial) _ _
  · exact silent_refuse (fun _ => trivial) _ _

theorem silent_replace (source target : Text) :
    Silent Failure.IsOfDisk (replace source target) := by
  refine silent_bind (calm_checkFault _ _).silent fun _ => ?_
  refine silent_bind (calm_checkPath source).silent fun _ => ?_
  refine silent_bind (calm_checkPath target).silent fun _ => ?_
  refine silent_bind (calm_look _ _).silent fun origin => ?_
  split
  · exact silent_refuse (fun _ => trivial) _ _
  · exact silent_refuse (fun _ => trivial) _ _
  · refine silent_bind (calm_look _ _).silent fun landing => ?_
    split
    · exact silent_refuse (fun _ => trivial) _ _
    · split
      · exact silent_refuse (fun _ => trivial) _ _
      · split
        · exact silent_refuse (fun _ => trivial) _ _
        · exact silent_bind silent_get fun _ => silent_commit _
        · exact silent_bind silent_get fun _ => silent_commit _

theorem silent_remove (path : Text) : Silent Failure.IsOfDisk (remove path) := by
  refine silent_bind (calm_checkFault _ _).silent fun _ => ?_
  refine silent_bind (calm_checkPath path).silent fun _ => ?_
  refine silent_bind (calm_look _ _).silent fun landing => ?_
  split
  · exact silent_refuse (fun _ => trivial) _ _
  · exact silent_bind silent_get fun _ => silent_commit _
  · exact silent_refuse (fun _ => trivial) _ _
  · exact silent_refuse (fun _ => trivial) _ _

end Silent

section LooksAtStoreOnly

theorem looksAtStoreOnly_look (follow : Bool) (path : Text) :
    LooksAtStoreOnly (look follow path) := by
  intro around w v h
  simp only [perform_look, h, and_self]

theorem looksAtStoreOnly_checkPath (path : Text) :
    LooksAtStoreOnly (checkPath path) := by
  unfold checkPath
  split
  · exact looksAtStoreOnly_throw _
  · exact looksAtStoreOnly_pure _

theorem looksAtStoreOnly_checkFault (call : Call) (paths : List Text) :
    LooksAtStoreOnly (checkFault call paths) := by
  refine looksAtStoreOnly_bind looksAtStoreOnly_read fun around => ?_
  dsimp only
  split
  · exact looksAtStoreOnly_refuse _ _
  · exact looksAtStoreOnly_pure _

theorem looksAtStoreOnly_present (path : Text) :
    LooksAtStoreOnly (present path) := by
  intro around w v h
  simp only [perform_present, h, and_self]

theorem looksAtStoreOnly_isDirectory (path : Text) :
    LooksAtStoreOnly (isDirectory path) := by
  intro around w v h
  simp only [perform_isDirectory, h, and_self]

theorem looksAtStoreOnly_makeDirectory (path : Text) :
    LooksAtStoreOnly (makeDirectory path) := by
  refine looksAtStoreOnly_bind (looksAtStoreOnly_checkPath path) fun _ => ?_
  refine looksAtStoreOnly_bind (looksAtStoreOnly_look _ _) fun landing => ?_
  split
  · rename_i place
    exact looksAtStoreOnly_get_bind (g := fun s => commit (s.insert place .directory))
      (fun _ => rfl) fun _ => looksAtStoreOnly_commit _
  · exact looksAtStoreOnly_refuse _ _
  · exact looksAtStoreOnly_refuse _ _

end LooksAtStoreOnly

end Disk
end NoteTemplates
