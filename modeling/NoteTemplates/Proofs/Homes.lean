import NoteTemplates.Proofs.Paths
import NoteTemplates.Proofs.Substituting

/-!
# Targets in the home directory

A target that begins with `~/` is meant to lie below the home directory. Paths in the settings
get there by `Path.expandUser`, which puts the steps of the home directory in the place of the
tilde. A target gets there by `Path.expandHome`, which follows what stands behind `~/` from the
home directory; but an absolute path is followed from nowhere else. So the two agree if and only
if what stands behind `~/` does not begin with a slash, or the home directory is where it begins.
Values can put a slash there, as the tokens of the target are replaced before.
-/

namespace NoteTemplates

namespace Path

/-- A path with the steps of another one behind its own. -/
def below (p q : Path) : Path :=
  { p with steps := p.steps ++ q.steps }

/-- A text leads on from a path: it does not begin anew, or it begins where the path stays. -/
def LeadsOn (p : Path) (rest : Text) : Prop :=
  rest.head? ≠ some '/' ∨ p.steps = [] ∧ p.anchor = anchorOf rest

instance (p : Path) (rest : Text) : Decidable (LeadsOn p rest) :=
  inferInstanceAs (Decidable (_ ∨ _))

section Home

variable {environment : Environment} {p : Path} {rest : Text}

theorem anchorOf_eq_here_iff : anchorOf rest = .here ↔ rest.head? ≠ some '/' := by
  cases rest with
  | nil => simp [anchorOf]
  | cons c s =>
      by_cases hc : c = '/'
      · subst hc
        unfold anchorOf
        split <;> simp_all
      · simp [anchorOf, hc]

theorem isAbsolute_ofText : (ofText rest).isAbsolute = true ↔ rest.head? = some '/' := by
  simp [isAbsolute, ofText, anchorOf_eq_here_iff]

/-- A text that begins with a slash is followed from the root. -/
theorem child_of_head (h : rest.head? = some '/') (p : Path) : p.child rest = ofText rest := by
  rw [child, join, if_pos (isAbsolute_ofText.mpr h)]

theorem child_eq_below_iff : p.child rest = p.below (ofText rest) ↔ p.LeadsOn rest := by
  by_cases h : rest.head? = some '/'
  · rw [child_of_head h, LeadsOn]
    constructor
    · intro heq
      have hanchor : anchorOf rest = p.anchor := congrArg Path.anchor heq
      have hsteps : (ofText rest).steps = p.steps ++ (ofText rest).steps := congrArg Path.steps heq
      exact Or.inr ⟨List.append_left_eq_self.mp hsteps.symm, hanchor.symm⟩
    · rintro (hno | ⟨hsteps, hanchor⟩)
      · exact absurd h hno
      · rw [below, hsteps, hanchor]
        rfl
  · have hrelative : ¬ (ofText rest).isAbsolute = true := mt isAbsolute_ofText.mp h
    rw [child, join, if_neg hrelative]
    exact iff_of_true rfl (Or.inl h)

/-- A tilde is replaced by the home directory, whatever stands behind the slash. -/
theorem expandUser_ofText_home (environment : Environment) (rest : Text) :
    expandUser environment (ofText ('~' :: '/' :: rest)) =
      (home environment).map (·.below (ofText rest)) := by
  have hsteps : (ofText ('~' :: '/' :: rest)).steps =
      ⟨['~'], by decide⟩ :: (ofText rest).steps := by
    have hsplit : Text.splitOn '/' ('~' :: '/' :: rest) = ['~'] :: Text.splitOn '/' rest :=
      Text.splitOn_append_cons (s := ['~']) (by decide) rest
    rw [ofText, hsplit]
    rfl
  have htext : ofText ('~' :: '/' :: rest) =
      ⟨.here, ⟨['~'], by decide⟩ :: (ofText rest).steps⟩ := by
    rw [← hsteps]
    rfl
  have htilde : ofText "~" = ⟨.here, [⟨['~'], by decide⟩]⟩ := by decide
  have hexpand (steps : List Step) :
      expandUser environment ⟨.here, ⟨['~'], by decide⟩ :: steps⟩ =
        (homeText? environment []).elim (.error .homeless) fun directory =>
          if Text.startsWith "~" directory then .error .homeless
          else .ok { ofText directory with steps := (ofText directory).steps ++ steps } := by
    have hno : ¬ ([] : Text).contains '\x00' = true := by decide
    refine (if_neg (t := .error .embeddedNull) hno).trans ?_
    cases homeText? environment [] <;> rfl
  rw [htext, home, htilde, hexpand, hexpand]
  cases homeText? environment [] with
  | none => rfl
  | some directory =>
      rw [Option.elim_some, Option.elim_some]
      split
      · rfl
      · simp [Except.map, below]

/-- Both ways into the home directory agree if and only if what follows leads on from it. -/
theorem expandHome_eq_expandUser_iff :
    expandHome environment ('~' :: '/' :: rest) =
        expandUser environment (ofText ('~' :: '/' :: rest)) ↔
      ∀ directory, home environment = .ok directory → directory.LeadsOn rest := by
  rw [expandUser_ofText_home, expandHome]
  cases home environment with
  | error f => exact iff_of_true rfl nofun
  | ok directory =>
      change Except.ok _ = Except.ok _ ↔ _
      rw [Except.ok.injEq, child_eq_below_iff]
      exact ⟨fun h _ heq => Except.ok.inj heq ▸ h, fun h => h directory rfl⟩

end Home

end Path

namespace Template

section Targets

variable {values builtIns : Bindings} {c : Char} {s : Text}

/-- What no token begins with stays in front. -/
theorem replaceTokens_cons (hvalues : ∀ binding ∈ values, binding.1.head? = some '\x7b')
    (hc : c ≠ '\x7b') (s : Text) :
    replaceTokens (c :: s) values = c :: replaceTokens s values := by
  induction values generalizing s with
  | nil => rfl
  | cons binding values ih =>
      obtain ⟨token, value⟩ := binding
      obtain ⟨htoken, hvalues⟩ := List.forall_mem_cons.mp hvalues
      have hne : token ≠ [] := by
        rintro rfl
        cases htoken
      have hno : ¬ token <+: c :: s := by
        intro hbegins
        cases token with
        | nil => exact hne rfl
        | cons d token =>
            obtain rfl : d = '\x7b' := Option.some.inj htoken
            exact hc (List.cons_prefix_cons.mp hbegins).1.symm
      change replaceTokens (Text.replaceAll token value (c :: s)) values = _
      rw [Text.replaceAll_cons hne hno]
      exact ih hvalues _

theorem substitute_cons (hbuiltIns : ∀ binding ∈ builtIns, binding.1.head? = some '\x7b')
    (hc : c ≠ '\x7b') (s : Text) (values : Bindings) :
    substitute (c :: s) values builtIns = c :: substitute s values builtIns := by
  rw [substitute, replaceTokens_cons (fun binding hbinding => ?_) hc,
    replaceTokens_cons hbuiltIns hc]
  · rfl
  · obtain ⟨named, -, rfl⟩ := List.mem_map.mp hbinding
    rfl

theorem head?_of_resolve {environment : Environment} {directory base : Path} {now : Moment}
    (h : BuiltIns.resolve environment directory base now = .ok builtIns) :
    ∀ binding ∈ builtIns, binding.1.head? = some '{' := by
  obtain ⟨expanded, -, rfl⟩ := BuiltIns.resolve_eq_ok.mp h
  exact fun binding hbinding => (isToken_of_mem_ofMoment hbinding).1

/--
Where a note goes whose target begins with `~/`: if what follows, with the tokens replaced, leads
on from the home directory, that is below the home directory, and if not, it is elsewhere. In
particular what begins with a slash goes to the root. The two ways of expanding a tilde agree on
a text under the same condition and no other.
-/
theorem renderTarget_home_iff {t : Template} {pattern : Text}
    (htarget : t.target = '~' :: '/' :: pattern) (environment : Environment) (directory : Path)
    (values : Bindings) (base : Path) (now : Moment) :
    let result := (t.renderTarget environment directory values base now).1
    (∀ builtIns home, BuiltIns.resolve environment directory base now = .ok builtIns →
      Path.home environment = .ok home →
      let rest := substitute pattern values builtIns
      t.targetText values builtIns = '~' :: '/' :: rest ∧
        (result = .ok (home.below (Path.ofText rest)) ↔ home.LeadsOn rest) ∧
        (rest.head? = some '/' → result = .ok (Path.ofText rest))) ∧
    ∀ rest, Path.expandHome environment ('~' :: '/' :: rest) =
        Path.expandUser environment (Path.ofText ('~' :: '/' :: rest)) ↔
      ∀ home, Path.home environment = .ok home → home.LeadsOn rest := by
  intro result
  refine ⟨fun builtIns home hbuiltIns hhome => ?_, fun rest => Path.expandHome_eq_expandUser_iff⟩
  have hheads := head?_of_resolve hbuiltIns
  have htext : t.targetText values builtIns = '~' :: '/' :: substitute pattern values builtIns := by
    rw [targetText, htarget, substitute_cons hheads (by decide),
      substitute_cons hheads (by decide)]
  have hresult : result = .ok (home.child (substitute pattern values builtIns)) := by
    have hhas : t.hasTarget = true := by rw [hasTarget, htarget]; rfl
    change (t.renderTarget environment directory values base now).1 = _
    rw [renderTarget, if_pos hhas, hbuiltIns]
    change Path.expandHome environment (t.targetText values builtIns) = _
    rw [htext, Path.expandHome, hhome]
    rfl
  refine ⟨htext, ?_, fun hslash => ?_⟩
  · rw [hresult, Except.ok.injEq, Path.child_eq_below_iff]
  · rw [hresult, Path.child_of_head hslash]

/-- A template whose notes go below the home directory, by a value. -/
def homely : Template :=
  { filename := "1-n-a.md", priority := 1, category := "n", name := "a", body := "hi"
    target := "~/\x7b$d\x7d/n.md" }

/-- A value that begins with a slash leads out of the home directory, others stay below it. -/
theorem renderTarget_home_iff_rooted :
    let environment : Environment := { bindings := [("HOME", "/home/ann")] }
    let result (d : Text) := (homely.renderTarget environment (Path.ofText "/") [("d", d)]
      (Path.ofText "/base") ⟨2024, 5, 6, 7, 8⟩).1
    homely.target = '~' :: '/' :: "\x7b$d\x7d/n.md" ∧
      Path.home environment = .ok (Path.ofText "/home/ann") ∧
      result "x" = .ok (Path.ofText "/home/ann/x/n.md") ∧
      result "/etc" = .ok (Path.ofText "/etc/n.md") ∧
      result "/etc" ≠ .ok (Path.ofText "/home/ann/etc/n.md") := by
  intro environment result
  have hhome : Path.home environment = .ok (Path.ofText "/home/ann") := by decide +kernel
  have hbuiltIns : BuiltIns.resolve environment (Path.ofText "/") (Path.ofText "/base")
      ⟨2024, 5, 6, 7, 8⟩ =
      .ok (BuiltIns.ofMoment (Path.ofText "/base") ⟨2024, 5, 6, 7, 8⟩) := by decide +kernel
  have htarget : homely.target = '~' :: '/' :: "\x7b$d\x7d/n.md" := rfl
  have hrun (d : Text) := (renderTarget_home_iff htarget environment (Path.ofText "/") [("d", d)]
    (Path.ofText "/base") ⟨2024, 5, 6, 7, 8⟩).1 _ _ hbuiltIns hhome
  obtain ⟨-, hbelow, -⟩ := hrun "x"
  obtain ⟨-, hleads, hroot⟩ := hrun "/etc"
  have hinner : substitute "\x7b$d\x7d/n.md" [("d", "x")]
      (BuiltIns.ofMoment (Path.ofText "/base") ⟨2024, 5, 6, 7, 8⟩) = "x/n.md" := by decide +kernel
  have houter : substitute "\x7b$d\x7d/n.md" [("d", "/etc")]
      (BuiltIns.ofMoment (Path.ofText "/base") ⟨2024, 5, 6, 7, 8⟩) = "/etc/n.md" := by
    decide +kernel
  have hinside : (Path.ofText "/home/ann").below (Path.ofText "x/n.md") =
      Path.ofText "/home/ann/x/n.md" := by decide +kernel
  have hmeant : (Path.ofText "/home/ann").below (Path.ofText "/etc/n.md") =
      Path.ofText "/home/ann/etc/n.md" := by decide +kernel
  rw [hinner, hinside] at hbelow
  rw [houter] at hleads hroot
  rw [hmeant] at hleads
  exact ⟨htarget, hhome, hbelow.mpr (by decide +kernel), hroot (by decide),
    mt hleads.mp (by decide +kernel)⟩

end Targets

end Template

end NoteTemplates
