import NoteTemplates.Proofs.QuietOperations
import NoteTemplates.Proofs.Quoting

/-!
# How the check of an editor ends

Before a file is opened, the editor command is split into words and its first word is looked
for. `Checked` says of each setting how this ends, without saying how it is done: by the words
that the command spells, or by what it leaves open, and by the files that may be run where the
program can be. The check ends in this way and in no other, and changes nothing.

So it ends with words that can be used or with a failure of the editor as long as the command
leaves nothing open.
-/

namespace NoteTemplates

open Effect

namespace Disk

variable {around : Surroundings}

/-- A path leads to a file that may be run. -/
def Runs (around : Surroundings) (s : Store) (path : Text) : Prop :=
  '\x00' ∉ path ∧ ∃ mode bytes,
    s.entryAt? around.base true path = some (.file mode bytes) ∧ permits runBit mode = true

/-- A path with nothing behind its last slash leads to no file. -/
theorem not_runs_of_last {s : Store} {path : Text} (h : ∀ c ∈ path.getLast?, c = '/') :
    ¬ Runs around s path := by
  rintro ⟨-, mode, bytes, hentry, -⟩
  obtain ⟨p, hfind⟩ := Store.entryAt?_eq_some.mp hentry
  have hwalk := Store.find_eq_along hfind s true
  rw [hfind] at hwalk
  cases hlast : path.getLast? with
  | none =>
      rw [List.getLast?_eq_none_iff.mp hlast] at hfind
      cases hfind
  | some c =>
      obtain rfl : c = '/' := h c hlast
      rw [Walk.names, if_pos hlast] at hwalk
      cases Walk.eq_directory_of_along_dot hwalk.symm

theorem perform_canRun (around : Surroundings) (w : World) (path : Text) :
    ∃ b, (canRun path).perform around w = (.ok b, w) ∧
      (b = true ↔ Runs around w.store path) := by
  rw [canRun, perform_bind, perform_entryAt?]
  by_cases hnul : '\x00' ∈ path
  · refine ⟨false, by rw [if_pos hnul]; rfl, ?_⟩
    simp [Runs, hnul]
  · rw [if_neg hnul]
    dsimp only
    cases hentry : w.store.entryAt? around.base true path with
    | none => exact ⟨false, rfl, by simp [Runs, hentry]⟩
    | some e =>
        cases e with
        | file mode bytes => exact ⟨permits runBit mode, rfl, by simp [Runs, hnul, hentry]⟩
        | directory => exact ⟨false, rfl, by simp [Runs, hentry]⟩
        | link target => exact ⟨false, rfl, by simp [Runs, hentry]⟩

end Disk

namespace Editor

variable {around : Surroundings} {s : Store} {w v : World} {editor : Option Text}
  {program : Text} {result : Except Failure (List Text)}

/-- A program can be run at one of the paths at which it can be. -/
def Found (around : Surroundings) (s : Store) (program : Text) : Prop :=
  ∃ path ∈ candidates around.environment program, Disk.Runs around s path

theorem perform_anyRuns (around : Surroundings) (w : World) (paths : List Text) :
    ∃ b, (anyRuns paths).perform around w = (.ok b, w) ∧
      (b = true ↔ ∃ path ∈ paths, Disk.Runs around w.store path) := by
  induction paths with
  | nil => exact ⟨false, rfl, by simp⟩
  | cons path paths ih =>
      obtain ⟨first, hfirst, hruns⟩ := Disk.perform_canRun around w path
      rw [anyRuns, perform_bind_ok around w hfirst]
      cases first with
      | true => exact ⟨true, rfl, by simp [hruns.mp rfl]⟩
      | false =>
          obtain ⟨b, hb, hrest⟩ := ih
          have hno : ¬ Disk.Runs around w.store path := fun h => by simpa using hruns.mpr h
          exact ⟨b, hb, by simpa [hno] using hrest⟩

/-- Quotes with nothing between them name no program. -/
theorem Found.ne_nil (h : Found around s program) : program ≠ [] := by
  rintro rfl
  obtain ⟨path, hpath, hruns⟩ := h
  rw [candidates, if_neg List.not_mem_nil] at hpath
  obtain ⟨directory, -, rfl⟩ := List.mem_map.mp hpath
  refine Disk.not_runs_of_last (fun c hc => ?_) hruns
  rw [Disk.inside, List.append_nil] at hc
  split at hc
  · rename_i hends
    simp only [Bool.or_eq_true, List.isEmpty_iff, decide_eq_true_eq] at hends
    rcases hends with rfl | hlast
    · cases hc
    · rw [hlast] at hc
      exact (Option.mem_some.mp hc).symm
  · simpa [eq_comm] using hc

/-- How the check of an editor ends, by the command that is set and the files that there are. -/
inductive Checked (around : Surroundings) (s : Store) :
    Option Text → Except Failure (List Text) → Prop
  | unset {editor : Option Text} (empty : editor.getD [] = []) :
      Checked around s editor (.error (.editor .notConfigured))
  | blank {command : Text} (nonempty : command ≠ [])
      (gaps : ∀ c ∈ command, Words.isGap c = true) :
      Checked around s (some command) (.error (.editor (.emptyCommand command)))
  | missing {command program : Text} {arguments : List Text}
      (spells : Words.Spells command (program :: arguments))
      (missing : ¬ Found around s program) :
      Checked around s (some command) (.error (.editor (.notFound program)))
  | usable {command program : Text} {arguments : List Text}
      (spells : Words.Spells command (program :: arguments)) (found : Found around s program) :
      Checked around s (some command) (.ok (program :: arguments))
  | leftOpen {command : Text} {e : WordsError} (leftOpen : Words.LeavesOpen command e) :
      Checked around s (some command) (.error (.words e))

/-- The check of a command that spells words looks for the first of them. -/
theorem perform_command_of_spells (around : Surroundings) (w : World) {command : Text}
    {arguments : List Text} (h : Words.Spells command (program :: arguments)) :
    (Found around w.store program ∧
      (Editor.command (some command)).perform around w = (.ok (program :: arguments), w)) ∨
    (¬ Found around w.store program ∧
      (Editor.command (some command)).perform around w =
        (.error (.editor (.notFound program)), w)) := by
  have hwords := Words.ofText_of_spells h
  have hne : command ≠ [] := by
    rintro rfl
    cases hwords
  obtain ⟨c, cs, rfl⟩ := List.exists_cons_of_ne_nil hne
  obtain ⟨b, hb, hfound⟩ := perform_anyRuns around w
    (candidates around.environment program)
  simp only [Editor.command, hwords]
  rw [perform_bind_ok _ _ (perform_read around w), perform_bind_ok around w hb]
  cases b with
  | true => exact Or.inl ⟨hfound.mp rfl, rfl⟩
  | false => exact Or.inr ⟨fun h => by simpa using hfound.mpr h, rfl⟩

/-- What `Checked` says is what happens. -/
theorem perform_command (h : Checked around w.store editor result) :
    (command editor).perform around w = (result, w) := by
  cases h with
  | unset empty =>
      cases editor with
      | none => rfl
      | some command =>
          obtain rfl : command = [] := empty
          rfl
  | @blank command nonempty gaps =>
      obtain ⟨c, cs, rfl⟩ := List.exists_cons_of_ne_nil nonempty
      simp only [Editor.command, Words.ofText_of_spells (Words.spells_nil_iff.mpr gaps)]
      rfl
  | missing spells missing =>
      rcases perform_command_of_spells around w spells with
        ⟨found, -⟩ | ⟨-, hrun⟩
      · exact absurd found missing
      · exact hrun
  | usable spells found =>
      rcases perform_command_of_spells around w spells with
        ⟨-, hrun⟩ | ⟨missing, -⟩
      · exact hrun
      · exact absurd found missing
  | @leftOpen command e leftOpen =>
      have herror := Words.ofText_of_leavesOpen leftOpen
      have hne : command ≠ [] := by
        rintro rfl
        cases herror
      obtain ⟨c, cs, rfl⟩ := List.exists_cons_of_ne_nil hne
      simp only [Editor.command, herror]
      rfl

/-- Something is said of every setting. -/
theorem exists_checked (around : Surroundings) (s : Store) (editor : Option Text) :
    ∃ result, Checked around s editor result := by
  cases editor with
  | none => exact ⟨_, .unset rfl⟩
  | some command =>
      rcases Words.spells_or_leavesOpen command with ⟨words, hspells⟩ | ⟨e, hopen⟩
      · cases words with
        | nil =>
            by_cases hempty : command = []
            · exact ⟨_, .unset hempty⟩
            · exact ⟨_, .blank hempty (Words.spells_nil_iff.mp hspells)⟩
        | cons program arguments =>
            by_cases hfound : Found around s program
            · exact ⟨_, .usable hspells hfound⟩
            · exact ⟨_, .missing hspells hfound⟩
      · exact ⟨_, .leftOpen hopen⟩

/-- The check ends as `Checked` says, and in no other way. -/
theorem command_ends_iff :
    (command editor).perform around w = (result, v) ↔
      Checked around w.store editor result ∧ v = w := by
  constructor
  · intro h
    obtain ⟨result', hchecked⟩ := exists_checked around w.store editor
    rw [perform_command hchecked] at h
    cases h
    exact ⟨hchecked, rfl⟩
  · rintro ⟨hchecked, rfl⟩
    exact perform_command hchecked

/-- Of a setting and the files that there are, one thing is said. -/
theorem Checked.unique {result' : Except Failure (List Text)} (h : Checked around s editor result)
    (h' : Checked around s editor result') : result = result' := by
  have hrun := perform_command (w := { store := s }) h
  rw [perform_command (w := { store := s }) h'] at hrun
  cases hrun
  rfl

theorem checked_of_leavesOpen {e : WordsError} (h : Words.LeavesOpen (editor.getD []) e) :
    Checked around s editor (.error (.words e)) := by
  cases editor with
  | none => cases Words.ofText_of_leavesOpen h
  | some command => exact .leftOpen h

/-- Words whose first can be run, or a failure of the editor. -/
def IsSettled (around : Surroundings) (s : Store) : Except Failure (List Text) → Prop
  | .ok words => ∃ program arguments, words = program :: arguments ∧ program ≠ [] ∧
      Found around s program
  | .error f => ∃ e, f = .editor e

/-- A setting is settled unless its command leaves something open. -/
theorem Checked.isSettled_iff (h : Checked around s editor result) :
    IsSettled around s result ↔ ∀ e, ¬ Words.LeavesOpen (editor.getD []) e := by
  cases h with
  | unset empty =>
      have hspells : Words.Spells [] [] := ⟨[], rfl, rfl⟩
      rw [empty]
      exact iff_of_true ⟨_, rfl⟩ hspells.not_leavesOpen
  | blank nonempty gaps =>
      exact iff_of_true ⟨_, rfl⟩ (Words.spells_nil_iff.mpr gaps).not_leavesOpen
  | missing spells missing => exact iff_of_true ⟨_, rfl⟩ spells.not_leavesOpen
  | usable spells found =>
      exact iff_of_true ⟨_, _, rfl, found.ne_nil, found⟩ spells.not_leavesOpen
  | leftOpen leftOpen =>
      refine iff_of_false ?_ fun hclosed => hclosed _ leftOpen
      rintro ⟨e, he⟩
      cases he

end Editor
end NoteTemplates
