import NoteTemplates.Proofs.Format

/-!
# Reading templates

A template is read if and only if its name, its first directive and its declarations have
the format of templates, and then it is what they say. Otherwise it is refused for the first
of the three that does not have it.
-/

namespace NoteTemplates
namespace Template

variable {path content : Text} {t : Template} {f : Failure}

/-- What a template is read as: its name, its first directive and its declarations. -/
theorem parse_eq_ok :
    parse path content = .ok t ↔ ∃ parts target declared,
      Filename.ofText (Path.ofText path).name = .ok parts ∧
      PathDirective.ofContent content = .ok target ∧
      Variable.ofContent content = .ok declared ∧
      t =
        { filename := (Path.ofText path).name
          priority := parts.priority
          category := parts.category
          name := parts.name
          body := content
          target
          declared
          questions := Prompt.questions content
          builtIns := [] } := by
  simp only [parse, bind, Except.bind]
  cases Filename.ofText (Path.ofText path).name with
  | error g => simp
  | ok parts =>
      cases PathDirective.ofContent content with
      | error e => simp [Except.mapError]
      | ok target =>
          cases Variable.ofContent content with
          | error e => simp [Except.mapError]
          | ok declared => simp [Except.mapError, pure, Except.pure, eq_comm]

/-- Why a template is refused: the first thing that is wrong. -/
theorem parse_eq_error :
    parse path content = .error f ↔
      Filename.ofText (Path.ofText path).name = .error f ∨
      (∃ parts, Filename.ofText (Path.ofText path).name = .ok parts) ∧
        ((∃ e, PathDirective.ofContent content = .error e ∧ f = .template e) ∨
          (∃ target, PathDirective.ofContent content = .ok target) ∧
            ∃ e, Variable.ofContent content = .error e ∧
              f = .template
                { e.withTemplate (Path.ofText path).name with cause := some .unattributed }) := by
  simp only [parse, bind, Except.bind]
  cases Filename.ofText (Path.ofText path).name with
  | error g => simp
  | ok parts =>
      cases PathDirective.ofContent content with
      | error e => simp [Except.mapError, eq_comm]
      | ok target =>
          cases Variable.ofContent content with
          | error e => simp [Except.mapError, eq_comm]
          | ok declared => simp [Except.mapError, pure, Except.pure]

/-- A template is refused by the pipeline only, if the number in its name can be read. -/
theorem exists_of_parse_eq_error
    (hshort : (Filename.beforeDash (Path.ofText path).name).length ≤ Text.digitLimit)
    (h : parse path content = .error f) : ∃ e, f = .template e := by
  rcases parse_eq_error.mp h with hname | ⟨-, ⟨e, -, rfl⟩ | ⟨-, e, -, rfl⟩⟩
  · obtain ⟨detail, rfl⟩ := Filename.exists_of_ofText_eq_error hshort hname
    exact ⟨_, rfl⟩
  · exact ⟨_, rfl⟩
  · exact ⟨_, rfl⟩

/-- The template that a name, a directive and declarations make of a text. -/
def assembled (filename content : Text) (parts : Filename) (told : Option Text)
    (declared : List Variable) : Template :=
  { filename
    priority := parts.priority
    category := parts.category
    name := parts.name
    body := content
    target := told.getD []
    declared
    questions := Prompt.questions content
    builtIns := [] }

/--
Which templates are read, as what, and why others are refused, for names whose first part has
no more digits than a number may have.

A template is read if and only if its name says something, its first directive is not empty
if there is one, and no two of its lines declare the same name. It then has the text of the
directive as its target, the declarations in the order of the lines, and the text as it is.

A template that is refused is refused for its name or, if the name is good, for the
directive, in both cases without the name of a template; or, if these are good, for the
first name that is declared again, with the name of the template.
-/
theorem parse_accepts_format (path content : Text)
    (hshort : (Filename.beforeDash (Path.ofText path).name).length ≤ Text.digitLimit) :
    let filename := (Path.ofText path).name
    let lines := Text.lines content
    (∀ t, parse path content = .ok t ↔ ∃ parts told declared,
      Filename.Names filename parts ∧
      PathDirective.FirstTells lines told ∧ told ≠ some [] ∧
      Variable.Declarations lines declared ∧ Variable.Distinct lines ∧
      t = assembled filename content parts told declared) ∧
    ∀ f, parse path content = .error f →
      (¬ ∃ parts, Filename.Names filename parts) ∧
          (∃ detail, f = .template { kind := .invalidFilename, detail }) ∨
        (∃ parts, Filename.Names filename parts) ∧
          (PathDirective.FirstTells lines (some []) ∧
              f = .template { kind := .invalidPathSyntax, detail := "empty path" } ∨
            (∃ told, PathDirective.FirstTells lines told ∧ told ≠ some []) ∧
              ∃ name, Variable.Repeats lines name ∧
                f = .template
                  { kind := .variableConflict
                    detail := name
                    template := some filename
                    cause := some .unattributed }) := by
  intro filename lines
  have hnames (parts : Filename) :
      Filename.ofText filename = .ok parts ↔ Filename.Names filename parts :=
    Filename.ofText_eq_ok hshort
  refine ⟨fun t => ?_, fun f hf => ?_⟩
  · rw [parse_eq_ok]
    constructor
    · rintro ⟨parts, target, declared, hname, htarget, hdeclared, rfl⟩
      obtain ⟨told, htold, hne, rfl⟩ := PathDirective.ofContent_eq_ok.mp htarget
      obtain ⟨hdeclarations, hdistinct⟩ := Variable.ofContent_eq_ok.mp hdeclared
      exact ⟨parts, told, declared, (hnames parts).mp hname, htold, hne, hdeclarations,
        hdistinct, rfl⟩
    · rintro ⟨parts, told, declared, hname, htold, hne, hdeclarations, hdistinct, rfl⟩
      exact ⟨parts, told.getD [], declared, (hnames parts).mpr hname,
        PathDirective.ofContent_eq_ok.mpr ⟨told, htold, hne, rfl⟩,
        Variable.ofContent_eq_ok.mpr ⟨hdeclarations, hdistinct⟩, rfl⟩
  · rcases parse_eq_error.mp hf with hname | ⟨⟨parts, hname⟩, hrest⟩
    · left
      refine ⟨?_, Filename.exists_of_ofText_eq_error hshort hname⟩
      rintro ⟨parts, hparts⟩
      have hok := (hnames parts).mpr hparts
      rw [show Filename.ofText filename = _ from hname] at hok
      cases hok
    · refine Or.inr ⟨⟨parts, (hnames parts).mp hname⟩, ?_⟩
      rcases hrest with ⟨e, he, rfl⟩ | ⟨⟨target, htarget⟩, e, he, rfl⟩
      · obtain ⟨htold, rfl⟩ := PathDirective.ofContent_eq_error.mp he
        exact Or.inl ⟨htold, rfl⟩
      · right
        obtain ⟨told, htold, hne, -⟩ := PathDirective.ofContent_eq_ok.mp htarget
        obtain ⟨name, hrepeats, rfl⟩ := Variable.repeats_of_ofContent_eq_error he
        exact ⟨⟨told, htold, hne⟩, name, hrepeats, rfl⟩

/-- A text with a directive and a declaration is a template; with its declaration twice, none. -/
theorem parse_accepts_format_declared_once_or_twice :
    let path : Text := "t/1-a-b.md"
    let once : Text := "<!-- Path: x -->\nn = <prompt>N?</prompt>"
    let twice : Text := once ++ "\nn=<prompt>M?</prompt>"
    (Filename.beforeDash (Path.ofText path).name).length ≤ Text.digitLimit ∧
      (∃ parts told declared,
        Filename.Names "1-a-b.md" parts ∧ PathDirective.FirstTells (Text.lines once) told ∧
          told.getD [] = "x" ∧ Variable.Declarations (Text.lines once) declared ∧
          declared = [⟨"n", "N?"⟩]) ∧
      Variable.Repeats (Text.lines twice) "n" := by
  intro path once twice
  have hshort : (Filename.beforeDash (Path.ofText path).name).length ≤ Text.digitLimit := by
    decide +kernel
  have honce : parse path once = .ok
      { filename := "1-a-b.md", priority := 1, category := "a", name := "b", body := once
        target := "x", declared := [⟨"n", "N?"⟩], questions := ["N?"] } := by decide +kernel
  have htwice : parse path twice = .error (.template
      { kind := .variableConflict, detail := "n", template := some "1-a-b.md"
        cause := some .unattributed }) := by decide +kernel
  refine ⟨hshort, ?_, ?_⟩
  · obtain ⟨parts, told, declared, hnames, htold, -, hdeclared, -, heq⟩ :=
      ((parse_accepts_format path once hshort).1 _).mp honce
    exact ⟨parts, told, declared, hnames, htold, (congrArg target heq).symm, hdeclared,
      (congrArg Template.declared heq).symm⟩
  · rcases (parse_accepts_format path twice hshort).2 _ htwice with
      ⟨-, detail, heq⟩ | ⟨-, ⟨-, heq⟩ | ⟨-, name, hrepeats, heq⟩⟩
    · cases heq
    · cases heq
    · cases heq
      exact hrepeats

end Template
end NoteTemplates
