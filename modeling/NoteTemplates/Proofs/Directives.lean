import NoteTemplates.Proofs.Format
import NoteTemplates.Template.Rendering

/-!
# Finding and leaving out path directives

A text tells where its note goes if and only if something is left out of it with the
directives, so reading and leaving out go by the same lines. What is left are the other lines,
each as it is and all in their order. They are put together with line feeds and parted at
line feeds again; where no line is left, the text is empty, and its one line is no directive.
So no directive is left, whatever the values and answers that went into the note hold.
-/

namespace NoteTemplates
namespace PathDirective

variable {content line : Text} {lines kept : List Text}

/-- The lines among others that are no directives, in their order. -/
inductive Others : List Text → List Text → Prop
  | none : Others [] []
  | directive {line rest : Text} {lines kept : List Text} (h : Marks line rest)
      (behind : Others lines kept) : Others (line :: lines) kept
  | other {line : Text} {lines kept : List Text} (h : ∀ rest, ¬ Marks line rest)
      (behind : Others lines kept) : Others (line :: lines) (line :: kept)

section Lines

/-- The lines that are kept are those that are no directives. -/
theorem others_filter (lines : List Text) :
    Others lines (lines.filter fun line => !isDirective line) := by
  induction lines with
  | nil => exact .none
  | cons line lines ih =>
      by_cases hline : isDirective line = true
      · obtain ⟨rest, hrest⟩ := isDirective_iff.mp hline
        rw [List.filter_cons_of_neg (by simp [hline])]
        exact .directive hrest ih
      · rw [List.filter_cons_of_pos (by simpa using hline)]
        exact .other (fun rest hrest => hline (isDirective_iff.mpr ⟨rest, hrest⟩)) ih

theorem isDirective_nil : isDirective [] = false := by
  decide

/-- The lines of what is left; an empty text still has one line. -/
theorem lines_remove (content : Text) :
    let kept := (Text.lines content).filter fun line => !isDirective line
    (kept = [] → remove content = []) ∧ (kept ≠ [] → Text.lines (remove content) = kept) := by
  intro kept
  constructor
  · intro hnone
    rw [remove, show (Text.lines content).filter (fun line => !isDirective line) = [] from hnone]
    rfl
  · intro hsome
    refine Text.splitOn_joinWith hsome fun line hline => ?_
    exact Text.notMem_of_mem_splitOn (List.mem_of_mem_filter hline)

/-- No line of what is left is a directive. -/
theorem isDirective_of_mem_lines_remove (h : line ∈ Text.lines (remove content)) :
    isDirective line = false := by
  obtain ⟨hempty, hlines⟩ := lines_remove content
  by_cases hkept : (Text.lines content).filter (fun line => !isDirective line) = []
  · rw [hempty hkept] at h
    obtain rfl : line = [] := by simpa [Text.lines, Text.splitOn] using h
    exact isDirective_nil
  · rw [hlines hkept] at h
    simpa using List.of_mem_filter h

/-- Nothing is left out of a text if and only if none of its lines is a directive. -/
theorem remove_eq_self_iff :
    remove content = content ↔ ∀ line ∈ Text.lines content, isDirective line = false := by
  constructor
  · intro hsame line hline
    rw [← hsame] at hline
    exact isDirective_of_mem_lines_remove hline
  · intro hno
    rw [remove, List.filter_eq_self.mpr fun line hline => by simp [hno line hline]]
    exact Text.joinWith_splitOn '\n' content

/-- Nothing is read in a text if and only if none of its lines is a directive. -/
theorem ofContent_eq_nil_iff :
    ofContent content = .ok [] ↔ ∀ line ∈ Text.lines content, isDirective line = false := by
  have hnone : (∀ line ∈ Text.lines content, isDirective line = false) ↔
      FirstTells (Text.lines content) none := by
    rw [firstTells_iff, Option.map_eq_none_iff, List.find?_eq_none]
    simp
  rw [hnone, ofContent_eq_ok]
  constructor
  · rintro ⟨told, htold, hne, hnil⟩
    cases told with
    | none => exact htold
    | some told =>
        rw [Option.getD_some] at hnil
        exact absurd (congrArg some hnil.symm) hne
  · exact fun htold => ⟨none, htold, by simp, rfl⟩

/-- No directive is read in what is left. -/
theorem ofContent_remove (content : Text) : ofContent (remove content) = .ok [] :=
  ofContent_eq_nil_iff.mpr fun _ => isDirective_of_mem_lines_remove

end Lines

/--
Directives are found where they are left out. A text in which no directive is read is the one
that stays as it is. What is left of a text are the lines that are no directives, in their
order and character for character, and leaving out once more changes nothing. A note is
rendered whenever the directory of the notes can be told, and no directive is read in it,
whatever the template, the values and the answers are.
-/
theorem finds_what_remove_drops :
    (∀ content,
      (ofContent content = .ok [] ↔ remove content = content) ∧
      (∃ kept, Others (Text.lines content) kept ∧ (kept = [] → remove content = []) ∧
        (kept ≠ [] → Text.lines (remove content) = kept)) ∧
      remove (remove content) = remove content) ∧
    ∀ (t : Template) (environment : Environment) (directory : Path) (values : Bindings)
      (answers : List Text) (base : Path) (now : Moment),
      let rendered := (t.renderBody environment directory values answers base now).1
      ((∃ note, rendered = .ok note) ↔ ∃ home, base.expandUser environment = .ok home) ∧
      ∀ note, rendered = .ok note → ofContent note = .ok [] := by
  refine ⟨fun content => ⟨?_, ⟨_, others_filter _, lines_remove content⟩, ?_⟩, ?_⟩
  · rw [ofContent_eq_nil_iff, remove_eq_self_iff]
  · exact remove_eq_self_iff.mpr fun _ => isDirective_of_mem_lines_remove
  · intro t environment directory values answers base now rendered
    have hrendered {note : Text} : rendered = .ok note ↔ ∃ builtIns,
        BuiltIns.resolve environment directory base now = .ok builtIns ∧
          t.note values answers builtIns = note := by
      show (BuiltIns.resolve environment directory base now).map (t.note values answers) = _ ↔ _
      cases BuiltIns.resolve environment directory base now with
      | error f => simp [Except.map]
      | ok builtIns => simp [Except.map]
    constructor
    · constructor
      · rintro ⟨note, hnote⟩
        obtain ⟨builtIns, hbuiltIns, -⟩ := hrendered.mp hnote
        obtain ⟨home, hhome, -⟩ := BuiltIns.resolve_eq_ok.mp hbuiltIns
        exact ⟨home, hhome⟩
      · rintro ⟨home, hhome⟩
        exact ⟨_, hrendered.mpr ⟨_, BuiltIns.resolve_eq_ok.mpr ⟨home, hhome, rfl⟩, rfl⟩⟩
    · intro note hnote
      obtain ⟨builtIns, -, rfl⟩ := hrendered.mp hnote
      exact ofContent_remove _

/-- An indented directive is left out as well, and so is a text of directives only. -/
example :
    remove "a\n  <!-- Path: x\n b" = "a\n b" ∧ remove "<!-- Path: x -->\n\t<!-- Path:" = [] := by
  decide

end PathDirective
end NoteTemplates
