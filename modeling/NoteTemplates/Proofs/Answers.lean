import NoteTemplates.Proofs.Parsing
import NoteTemplates.Template.Rendering

/-!
# Where answers land

The questions of a template are asked in the order of its prompts, and the answers are filled
in after the values were put in. So the answers land where their questions stood if and only
if the values leave the prompts where they are: each prompt, with the values in it, is found
right behind what stands before it, with the values in that. A value that holds a prompt of
its own is enough to break this. Values without angle brackets and line feeds never do, where
no other angle bracket of the text is in front of the letter of a tag or of a token.
-/

namespace NoteTemplates
namespace Template

open Prompt (weave asPrompts Stands layOut IsTame)

/-- What a text cut at its prompts becomes when values are put in: the same cut, piece by piece. -/
def filled (values builtIns : Bindings) (pairs : List (Text × Text)) : List (Text × Text) :=
  pairs.map fun (q, next) => (substitute q values builtIns, substitute next values builtIns)

section Substituting

variable {values builtIns : Bindings}

/-- The tokens of names with values. -/
def withTokens (values : Bindings) : Bindings :=
  values.map fun (name, value) => (Variable.token name, value)

/-- All tokens that are replaced are tokens. -/
def KnowsTokens (values builtIns : Bindings) : Prop :=
  AreTokens (withTokens values) ∧ AreTokens builtIns

theorem substitute_eq (s : Text) (values builtIns : Bindings) :
    substitute s values builtIns =
      replaceTokens (replaceTokens s (withTokens values)) builtIns := rfl

theorem substitute_append_cons (h : KnowsTokens values builtIns) {c : Char}
    (hc : ∀ p, IsToken p → c ∉ p) (s t : Text) :
    substitute (s ++ c :: t) values builtIns =
      substitute s values builtIns ++ c :: substitute t values builtIns := by
  simp only [substitute_eq]
  rw [replaceTokens_append_cons h.1 hc, replaceTokens_append_cons h.2 hc]

theorem substitute_of_notMem (h : KnowsTokens values builtIns) {s : Text} (hs : '\x7b' ∉ s) :
    substitute s values builtIns = s := by
  rw [substitute_eq, replaceTokens_of_notMem h.1 hs, replaceTokens_of_notMem h.2 hs]

/-- Values are put in before a prompt, into its question and behind it, each by itself. -/
theorem substitute_write (h : KnowsTokens values builtIns) (s q t : Text) :
    substitute (s ++ (Prompt.write q ++ t)) values builtIns =
      substitute s values builtIns ++
        (Prompt.write (substitute q values builtIns) ++ substitute t values builtIns) := by
  have hopen : ∀ p, IsToken p → '<' ∉ p := fun p hp => hp.2.1
  have hclose : ∀ p, IsToken p → '>' ∉ p := fun p hp => hp.2.2
  have hwrite (q t : Text) : Prompt.write q ++ t =
      '<' :: (("prompt" : Text) ++ '>' :: (q ++ '<' :: (("/prompt" : Text) ++ '>' :: t))) := by
    have hopenTag : Prompt.openTag = '<' :: (("prompt" : Text) ++ ['>']) := by decide
    have hcloseTag : Prompt.closeTag = '<' :: (("/prompt" : Text) ++ ['>']) := by decide
    rw [Prompt.write, hopenTag, hcloseTag]
    simp
  rw [hwrite, hwrite, substitute_append_cons h hopen, substitute_append_cons h hclose,
    substitute_append_cons h hopen, substitute_append_cons h hclose,
    substitute_of_notMem h (s := "prompt") (by decide),
    substitute_of_notMem h (s := "/prompt") (by decide)]

/-- Values are put into a text with prompts piece by piece. -/
theorem substitute_weave (h : KnowsTokens values builtIns) (head : Text)
    (pairs : List (Text × Text)) :
    substitute (weave head (asPrompts pairs)) values builtIns =
      weave (substitute head values builtIns) (asPrompts (filled values builtIns pairs)) := by
  induction pairs generalizing head with
  | nil => simp [asPrompts, filled]
  | cons pair pairs ih =>
      obtain ⟨q, next⟩ := pair
      have hnext := ih next
      simp only [asPrompts, filled, List.map_cons, Prompt.weave_cons] at hnext ⊢
      rw [substitute_write h, hnext]

/-- What is in no value and not in a text does not come up when values are put in. -/
theorem notMem_substitute (h : KnowsTokens values builtIns) {c : Char} {s : Text}
    (hvalues : ∀ binding ∈ values ++ builtIns, c ∉ binding.2) (hs : c ∉ s) :
    c ∉ substitute s values builtIns := by
  refine notMem_replaceTokens h.2
    (fun binding hbinding => hvalues binding (List.mem_append_right _ hbinding))
    (notMem_replaceTokens h.1 (fun binding hbinding => ?_) hs)
  obtain ⟨⟨name, value⟩, hmem, rfl⟩ := List.mem_map.mp hbinding
  exact hvalues (name, value) (List.mem_append_left _ hmem)

/-- A tame text stays tame when values without angle brackets are put in. -/
theorem isTame_replaceAll {p value s : Text} (hp : IsToken p) (hvalue : '<' ∉ value)
    (hs : IsTame s) : IsTame (Text.replaceAll p value s) := by
  induction s using Text.replace_induction hp.ne_nil with
  | nil => rwa [Text.replaceAll_nil hp.ne_nil]
  | occurs s ih =>
      rw [Text.replaceAll_append hp.ne_nil]
      refine List.isChain_append.mpr ⟨Prompt.isTame_of_notMem hvalue,
        ih (List.isChain_append.mp hs).2.1, fun c hc d _ heq => ?_⟩
      exact absurd (heq ▸ List.mem_of_getLast? hc) hvalue
  | plain c s hno ih =>
      obtain ⟨hfirst, hrest⟩ := List.isChain_cons.mp hs
      rw [Text.replaceAll_cons hp.ne_nil hno]
      refine (ih hrest).cons fun d hd hc => ?_
      -- what follows the bracket begins no token, so it stays
      cases s with
      | nil =>
          rw [Text.replaceAll_nil hp.ne_nil] at hd
          cases hd
      | cons e s =>
          have he := hfirst e rfl hc
          rw [Text.replaceAll_cons hp.ne_nil (hp.not_begins he.2 s)] at hd
          obtain rfl : e = d := by simpa using hd
          exact he

theorem isTame_replaceTokens (h : AreTokens values) {s : Text}
    (hvalues : ∀ binding ∈ values, '<' ∉ binding.2) (hs : IsTame s) :
    IsTame (replaceTokens s values) := by
  induction values generalizing s with
  | nil => exact hs
  | cons binding values ih =>
      have hfirst := isTame_replaceAll (h binding List.mem_cons_self)
        (hvalues binding List.mem_cons_self) hs
      exact ih (fun b hb => h b (List.mem_cons_of_mem _ hb))
        (fun b hb => hvalues b (List.mem_cons_of_mem _ hb)) hfirst

theorem isTame_substitute (h : KnowsTokens values builtIns) {s : Text}
    (hvalues : ∀ binding ∈ values ++ builtIns, '<' ∉ binding.2) (hs : IsTame s) :
    IsTame (substitute s values builtIns) := by
  refine isTame_replaceTokens h.2
    (fun binding hbinding => hvalues binding (List.mem_append_right _ hbinding))
    (isTame_replaceTokens h.1 (fun binding hbinding => ?_) hs)
  obtain ⟨⟨name, value⟩, hmem, rfl⟩ := List.mem_map.mp hbinding
  exact hvalues (name, value) (List.mem_append_left _ hmem)

end Substituting

section Landing

variable {path content : Text} {t : Template} {environment : Environment}
  {directory base : Path} {now : Moment} {values builtIns : Bindings}

/-- The tokens of a template: those of the names it declares, and the built-in ones. -/
theorem knowsTokens_of_parse (hparse : parse path content = .ok t)
    (hnames : ∀ binding ∈ values, ∃ v ∈ t.declared, v.name = binding.1)
    (hresolve : BuiltIns.resolve environment directory base now = .ok builtIns) :
    KnowsTokens values builtIns := by
  obtain ⟨parts, target, declared, -, -, hdeclared, rfl⟩ := parse_eq_ok.mp hparse
  constructor
  · intro binding hbinding
    obtain ⟨⟨name, value⟩, hmem, rfl⟩ := List.mem_map.mp hbinding
    obtain ⟨v, hv, rfl⟩ := hnames _ hmem
    obtain ⟨hdeclarations, -⟩ := Variable.ofContent_eq_ok.mp hdeclared
    obtain ⟨line, -, -, hletters, -⟩ := hdeclarations.exists_declares hv
    exact isToken_token hletters
  · obtain ⟨expanded, -, rfl⟩ := BuiltIns.resolve_eq_ok.mp hresolve
    exact fun binding hbinding => isToken_of_mem_ofMoment hbinding

/-- Whether all answers land can be seen from the prompts with the values in them. -/
theorem draft_eq_weave_iff (h : KnowsTokens values builtIns) (t : Template) :
    let head := (layOut t.body).1
    let pairs := (layOut t.body).2
    (∀ answers : List Text, answers.length = pairs.length →
      t.draft values answers builtIns =
        weave (substitute head values builtIns)
          (answers.zip (pairs.map fun pair => substitute pair.2 values builtIns))) ↔
    Stands (substitute head values builtIns) (filled values builtIns pairs) := by
  intro head pairs
  have hbody : t.body = weave head (asPrompts pairs) := (Prompt.weave_layOut t.body).symm
  have hdraft (answers : List Text) : t.draft values answers builtIns =
      Prompt.answer (weave (substitute head values builtIns)
        (asPrompts (filled values builtIns pairs))) answers := by
    rw [draft, hbody, substitute_weave h]
  have hanswered (answers : List Text) :
      Prompt.answered (filled values builtIns pairs) answers =
        answers.zip (pairs.map fun pair => substitute pair.2 values builtIns) := by
    simp [Prompt.answered, filled, Function.comp_def]
  have hlength : pairs.length = (filled values builtIns pairs).length := by
    simp [filled]
  simp only [hlength, hdraft, ← hanswered]
  exact Prompt.answer_weave_iff _ _

/--
Answers land where their questions stood, whatever the values are but for angle brackets and
line feeds, in a text in which no angle bracket but those of tags is followed by the first
letter of a tag or of a token, and none is in a question.
-/
theorem draft_eq_weave_of_isTame (h : KnowsTokens values builtIns)
    (hvalues : ∀ binding ∈ values ++ builtIns, '<' ∉ binding.2 ∧ '\n' ∉ binding.2)
    (hhead : IsTame (layOut t.body).1)
    (hpairs : ∀ pair ∈ (layOut t.body).2, '<' ∉ pair.1 ∧ IsTame pair.2)
    {answers : List Text} (hlength : answers.length = (layOut t.body).2.length) :
    t.draft values answers builtIns =
      weave (substitute (layOut t.body).1 values builtIns)
        (answers.zip ((layOut t.body).2.map fun pair => substitute pair.2 values builtIns)) := by
  have hopen : ∀ binding ∈ values ++ builtIns, '<' ∉ binding.2 :=
    fun binding hbinding => (hvalues binding hbinding).1
  refine (draft_eq_weave_iff h t).mpr
    (Prompt.stands_of_isTame (isTame_substitute h hopen hhead) ?_) answers hlength
  intro pair hpair
  obtain ⟨⟨q, next⟩, hmem, rfl⟩ := List.mem_map.mp hpair
  obtain ⟨hq, hnext⟩ := hpairs (q, next) hmem
  have hline := (Prompt.isQuestion_of_mem_layOut hmem).1
  exact ⟨notMem_substitute h hopen hq,
    notMem_substitute h (fun binding hbinding => (hvalues binding hbinding).2) hline,
    isTame_substitute h hopen hnext⟩

/--
How a template is rendered, with values for names that it declares. The text is a layout of
the questions of the template, and what is rendered is the draft without its path directives.
In the draft every answer stands where its question stood, whatever the answers are, if and
only if each prompt, with the values in it, is found right behind what stands before it, with
the values in that.
-/
theorem answers_land_iff (hparse : parse path content = .ok t)
    (hnames : ∀ binding ∈ values, ∃ v ∈ t.declared, v.name = binding.1)
    (hresolve : BuiltIns.resolve environment directory base now = .ok builtIns) :
    let head := (layOut t.body).1
    let pairs := (layOut t.body).2
    let fill (s : Text) := substitute s values builtIns
    t.body = weave head (asPrompts pairs) ∧
    t.questions = pairs.map (·.1) ∧
    (∀ answers, (t.renderBody environment directory values answers base now).1 =
      .ok (PathDirective.remove (t.draft values answers builtIns))) ∧
    ((∀ answers : List Text, answers.length = t.questions.length →
        t.draft values answers builtIns =
          weave (fill head) (answers.zip (pairs.map fun pair => fill pair.2))) ↔
      Stands (fill head) (pairs.map fun pair => (fill pair.1, fill pair.2))) := by
  intro head pairs fill
  have hquestions : t.questions = pairs.map (·.1) := by
    obtain ⟨parts, target, declared, -, -, -, rfl⟩ := parse_eq_ok.mp hparse
    exact Prompt.questions_eq content
  refine ⟨(Prompt.weave_layOut t.body).symm, hquestions, fun answers => ?_, ?_⟩
  · simp only [renderBody, hresolve, Except.map]
    rfl
  · rw [hquestions, List.length_map]
    exact draft_eq_weave_iff (knowsTokens_of_parse hparse hnames hresolve) t

/-- A value that holds a prompt takes the answer of the question behind it. -/
theorem answers_land_iff_prompt_in_value :
    let content : Text := "n = <prompt>N?</prompt>\n\x7b$n\x7d <prompt>Q?</prompt>"
    let values : Bindings := [("n", "<prompt>x</prompt>")]
    let now : Moment := ⟨2024, 1, 15, 9, 5⟩
    let base : Path := Path.ofText "/base"
    ∃ t builtIns, parse "1-a-b.md" content = .ok t ∧
      (∀ binding ∈ values, ∃ v ∈ t.declared, v.name = binding.1) ∧
      BuiltIns.resolve {} ⟨.root, []⟩ base now = .ok builtIns ∧
      t.draft values ["A", "B"] builtIns = "n = A\nB <prompt>Q?</prompt>" ∧
      ¬ Stands (substitute (layOut t.body).1 values builtIns)
        ((layOut t.body).2.map fun pair =>
          (substitute pair.1 values builtIns, substitute pair.2 values builtIns)) := by
  intro content values now base
  let t : Template :=
    { filename := "1-a-b.md", priority := 1, category := "a", name := "b", body := content
      declared := [⟨"n", "N?"⟩], questions := ["N?", "Q?"] }
  let builtIns := BuiltIns.ofMoment base now
  have hparse : parse "1-a-b.md" content = .ok t := by decide +kernel
  have hnames : ∀ binding ∈ values, ∃ v ∈ t.declared, v.name = binding.1 := by decide
  have hresolve : BuiltIns.resolve {} ⟨.root, []⟩ base now = .ok builtIns := by decide +kernel
  have hdraft : t.draft values ["A", "B"] builtIns = "n = A\nB <prompt>Q?</prompt>" := by
    decide +kernel
  obtain ⟨-, -, -, hiff⟩ := answers_land_iff hparse hnames hresolve
  refine ⟨t, builtIns, hparse, hnames, hresolve, hdraft, fun hstands => ?_⟩
  have hlands := hiff.mpr hstands ["A", "B"] rfl
  rw [hdraft] at hlands
  revert hlands
  decide +kernel

end Landing

end Template
end NoteTemplates
