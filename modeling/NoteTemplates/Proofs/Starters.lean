import NoteTemplates.Notebook
import NoteTemplates.Proofs.Parsing

/-!
# The text of a new template

A new template has one directive, no declaration and one prompt, whatever its name is, as long
as there is no slash in it: the name stands in the directive and in a title, and nothing that
it holds ends a prompt, since the only closing tag with a slash in front of its letters is the
one behind the question. The directive tells where notes go, and says it in full if the name
is on one line.

Input: a name without a slash.

Results: `questions_starter`, `ofContent_starter` for declarations, `directive_starter`, and
`parse_starter`, which puts them together.
-/

namespace NoteTemplates

namespace Text

variable {sep c : Char} {s t part : Text}

/-- The first part of a text goes on from what stands in front of it. -/
theorem splitOn_append_of_notMem {first : Text} {more : List Text} (hs : sep ∉ s)
    (h : splitOn sep t = first :: more) : splitOn sep (s ++ t) = (s ++ first) :: more := by
  induction s with
  | nil => exact h
  | cons c s ih =>
      rw [List.mem_cons, not_or] at hs
      rw [List.cons_append, splitOn, if_neg (Ne.symm hs.1), ih hs.2]
      rfl

/-- What is not white space stays when a text is stripped. -/
theorem mem_strip (hc : isBlank c = false) (h : c ∈ s) : c ∈ strip s := by
  obtain ⟨before, after, heq, hbefore, hafter⟩ := (strips_strip s).around
  rw [heq, List.mem_append, List.mem_append] at h
  rcases h with hmem | hmem | hmem
  · rw [hbefore c hmem] at hc
    cases hc
  · exact hmem
  · rw [hafter c hmem] at hc
    cases hc

end Text

namespace Prompt

variable {s t : Text}

/-- A closing tag in a text with a slash is behind the slash, or is that slash. -/
theorem closeTag_infix_append_slash (hs : '/' ∉ s) (h : closeTag <:+: s ++ '/' :: t) :
    closeTag <:+: t ∨ s.getLast? = some '<' ∧ ("prompt>" : Text) <+: t := by
  obtain ⟨u, v, huv⟩ := h
  have huv : (u ++ ['<']) ++ '/' :: (("prompt>" : Text) ++ v) = s ++ '/' :: t := by
    rw [← huv, closeTag_eq]
    simp
  rcases Text.append_cons_cases hs huv with ⟨rfl, rfl⟩ | ⟨between, hu, rfl⟩
  · exact Or.inr ⟨by simp, List.prefix_append _ _⟩
  · left
    rcases List.eq_nil_or_concat between with rfl | ⟨between, d, rfl⟩
    · simp at hu
    · have hu : u ++ ['<'] = (s ++ '/' :: between) ++ [d] := by simpa using hu
      obtain ⟨-, hd⟩ := List.append_inj' hu rfl
      cases hd
      exact ⟨between, v, by simp [closeTag_eq]⟩

/-- Without a slash there is no closing tag. -/
theorem not_closeTag_infix_of_notMem (hs : '/' ∉ s) : ¬ closeTag <:+: s :=
  fun h => hs (h.subset (by decide))

theorem not_closeTag_infix_append_newline (h : ¬ closeTag <:+: s) :
    ¬ closeTag <:+: s ++ ['\n'] := by
  rw [List.infix_concat_iff, not_or]
  refine ⟨fun ⟨u, hu⟩ => ?_, h⟩
  have hlast : some '>' = some '\n' := by
    have heq := congrArg List.getLast? hu
    rwa [Text.getLast?_append_of_ne_nil closeTag_ne_nil, List.getLast?_concat] at heq
  cases hlast

/-- No prompt begins in lines without a closing tag. -/
theorem question?_append_eq_none (hline : '\n' ∈ s) (hclose : ¬ closeTag <:+: s) (t : Text) :
    question? (s ++ t) = none := by
  by_contra hne
  obtain ⟨q, hq⟩ := Option.ne_none_iff_exists'.mp hne
  obtain ⟨rest, heq, hquestion, -⟩ := question?_eq_some.mp hq
  have hwrite : '\n' ∉ write q := by
    have hopen : '\n' ∉ openTag := by decide
    have hend : '\n' ∉ closeTag := by decide
    simp [write, hopen, hend, hquestion]
  rcases List.append_eq_append_iff.mp heq with ⟨between, hbetween, -⟩ | ⟨between, hs, -⟩
  · exact hwrite (hbetween ▸ List.mem_append_left _ hline)
  · exact hclose (hs ▸ (List.suffix_append _ closeTag).isInfix.trans
      (List.prefix_append _ between).isInfix)

/-- Lines without a closing tag are cut character by character. -/
theorem cut_append_of_lines (hlast : s = [] ∨ s.getLast? = some '\n')
    (hclose : ¬ closeTag <:+: s) (t : Text) :
    cut (s ++ t) = s.map .plain ++ cut t := by
  induction s with
  | nil => rfl
  | cons c s ih =>
      have hlast : (c :: s).getLast? = some '\n' := hlast.resolve_left (by simp)
      have hnone := question?_append_eq_none (List.mem_of_getLast? hlast) hclose t
      rw [List.cons_append] at hnone ⊢
      rw [cut_cons hnone, ih, List.map_cons, List.cons_append]
      · cases s with
        | nil => exact Or.inl rfl
        | cons d s => exact Or.inr (by simpa using hlast)
      · exact fun h => hclose (h.trans (List.suffix_cons c s).isInfix)

theorem asked_plain (s : Text) (pieces : List (Text.Piece Text)) :
    asked (s.map .plain ++ pieces) = asked pieces := by
  induction s with
  | nil => rfl
  | cons c s ih => exact ih

end Prompt

namespace Variable

variable {line : Text}

/-- A line without a closing tag declares nothing. -/
theorem ofLine?_eq_none_of_not_closeTag (h : ¬ Prompt.closeTag <:+: line) :
    ofLine? line = none := by
  rw [Option.eq_none_iff_forall_ne_some]
  intro v hv
  obtain ⟨-, -, -, before, behind, rest, hline, -⟩ := ofLine?_eq_some.mp hv
  refine h ⟨v.name ++ before ++ '=' :: behind ++ Prompt.openTag ++ v.question, rest, ?_⟩
  rw [hline, Prompt.write]
  simp

/-- A line declares nothing if it does not begin like a name. -/
theorem ofLine?_cons_of_not_isNameChar {c : Char} (hc : isNameChar c = false) :
    ofLine? (c :: line) = none := by
  simp [ofLine?, hc]

end Variable

namespace PathDirective

variable {line target rest : Text} {c : Char}

/-- A line is a directive if it has the marker in front and a further character behind it. -/
theorem isDirective_of_begins (hbegins : marker <+: line) (hc : c ∈ line)
    (hblank : Text.isBlank c = false) (hmarker : c ∉ marker) :
    ∃ rest, Marks line rest ∧ c ∈ rest := by
  obtain ⟨⟨before, after, heq, hbefore, hafter⟩, hfirst, hlast⟩ := Text.strips_strip line
  have hnil : before = [] := by
    cases before with
    | nil => rfl
    | cons d before =>
        have hhead : marker.head? = some d := by
          obtain ⟨behind, hbehind⟩ := hbegins
          have hline := congrArg List.head? (hbehind.trans heq)
          rwa [List.head?_append_of_ne_nil _ (by decide)] at hline
        obtain rfl : '<' = d := Option.some.inj hhead
        exact absurd (hbefore '<' List.mem_cons_self) (by decide)
  subst hnil
  have hmem := Text.mem_strip hblank hc
  have hcore : Text.strip line <+: line := ⟨after, heq.symm⟩
  obtain ⟨rest, hrest⟩ : marker <+: Text.strip line := by
    rcases List.prefix_or_prefix_of_prefix hbegins hcore with hmark | hshort
    · exact hmark
    · exact absurd (hshort.mem hmem) hmarker
  refine ⟨rest, Text.strip_eq_iff.mp hrest.symm, ?_⟩
  rw [← hrest] at hmem
  exact (List.mem_append.mp hmem).resolve_left hmarker

/-- What a directive tells holds every character of it but white space and its marks. -/
theorem mem_target (h : Marks line rest) (hc : c ∈ rest) (hblank : Text.isBlank c = false)
    (hending : c ∉ ending) : c ∈ PathDirective.target line := by
  rw [PathDirective.target, Text.strip_eq_iff.mpr h, Text.dropPrefix_append]
  refine Text.mem_strip hblank ?_
  have hmem := Text.mem_strip hblank hc
  rcases Text.dropSuffix_eq_iff.mp (rfl : Text.dropSuffix ending (Text.strip rest) = _) with
    heq | ⟨heq, -⟩
  · rw [heq, List.mem_append] at hmem
    exact hmem.resolve_right hending
  · rwa [← heq]

/-- A directive tells what stands in it between two blanks. -/
theorem tells_between_blanks (hne : target ≠ [])
    (hfirst : ∀ c ∈ target.head?, Text.isBlank c = false)
    (hlast : ∀ c ∈ target.getLast?, Text.isBlank c = false) :
    Tells (marker ++ ' ' :: (target ++ ' ' :: ending)) target := by
  have hblank : ∀ c ∈ [' '], Text.isBlank c = true := by
    rw [List.forall_mem_singleton]
    decide
  have hmark : ∀ c ∈ marker.head?, Text.isBlank c = false := by
    rintro c ⟨rfl⟩
    decide
  have hend : ∀ c ∈ ending.getLast?, Text.isBlank c = false := by
    rintro c ⟨rfl⟩
    decide
  have hending : (' ' :: ending) ≠ [] := by simp
  refine ⟨' ' :: (target ++ ' ' :: ending), target ++ ' ' :: ending, target ++ [' '], ?_, ?_,
    ?_, ?_⟩
  · refine ⟨⟨[], [], by simp, by simp, by simp⟩, ?_, ?_⟩
    · rwa [List.head?_append_of_ne_nil _ (by decide)]
    · rwa [← List.cons_append, ← List.append_assoc, Text.getLast?_append_of_ne_nil hending,
        ← List.singleton_append, Text.getLast?_append_of_ne_nil (by decide)]
  · refine ⟨⟨[' '], [], by simp, hblank, by simp⟩, ?_, ?_⟩
    · rwa [List.head?_append_of_ne_nil _ hne]
    · rwa [Text.getLast?_append_of_ne_nil hending, ← List.singleton_append,
        Text.getLast?_append_of_ne_nil (by decide)]
  · exact Or.inl (by simp)
  · exact ⟨⟨[], [' '], by simp, by simp, hblank⟩, hfirst, hlast⟩

end PathDirective

namespace Filename

/-- The parts of which a file name is made can be read off it. -/
theorem ofText_assemble {priority : Int} {category name : Text} (hpriority : 0 ≤ priority)
    (hcategory : '-' ∉ category)
    (hshort : (beforeDash (assemble priority category name)).length ≤ Text.digitLimit) :
    ofText (assemble priority category name) = .ok ⟨priority.toNat, category, name⟩ := by
  obtain ⟨n, rfl⟩ := Int.eq_ofNat_of_zero_le hpriority
  rw [ofText_eq_ok hshort]
  refine ⟨Text.ofNat n, Or.inl ?_, Nat.toDigits_ne_nil, fun c hc =>
    Nat.isDigit_of_mem_toDigits (by decide) (by decide) hc, hcategory, ?_⟩
  · have hpriority : Text.ofInt (n : Int) = Text.ofNat n := rfl
    rw [assemble, hpriority]
    simp
  · exact (Nat.ofDigitChars_ten_toDigits).symm

end Filename

namespace Notebook

variable {name : Text}

section Layout

/-- The question of a new template. -/
def starterQuestion : Text := "What is this note about?"

/-- The title of a new template and what follows it, up to the prompt. -/
def starterTitle (name : Text) : Text :=
  "# " ++ (name.map fun c => if c = '-' then ' ' else c) ++ " - " ++ BuiltIns.dateToken ++
    "\n\n## Summary\n"

/-- What stands behind the name in the directive of a new template, up to the prompt. -/
def starterHeading (name : Text) : Text :=
  (BuiltIns.dateToken ++ ".md -->") ++ '\n' :: starterTitle name

/-- What stands in front of the prompt of a new template. -/
def starterPreface (name : Text) : Text :=
  ("<!-- Path: " ++ BuiltIns.baseToken) ++ '/' :: (name ++ '/' :: starterHeading name)

/-- What stands behind the line of the prompt. -/
def starterNotes : Text := "\n## Notes\n\n"

/-- A new template is a preface, a prompt on a line of its own, and an empty section. -/
theorem starter_eq (name : Text) :
    starter name =
      starterPreface name ++ '\n' :: (Prompt.write starterQuestion ++ '\n' :: starterNotes) := by
  have hfirst : (".md -->\n# " : Text) = (".md -->" : Text) ++ '\n' :: ("# " : Text) := by
    decide +kernel
  have hlast :
      ("\n\n## Summary\n\n<prompt>What is this note about?</prompt>\n\n## Notes\n\n" : Text) =
      ("\n\n## Summary\n" : Text) ++
        '\n' :: (Prompt.write starterQuestion ++ '\n' :: starterNotes) := by
    decide +kernel
  have hslash : ("/" : Text) = ['/'] := by decide
  -- the literals are named, so that no step looks into them
  have hjoin {mark base slash date first title second last ending mark' last' rest : Text}
      (hslash : slash = ['/']) (hfirst : first = ending ++ '\n' :: mark')
      (hlast : last = last' ++ '\n' :: rest) :
      mark ++ base ++ slash ++ name ++ slash ++ date ++ first ++ title ++ second ++ date ++ last =
        ((mark ++ base) ++ '/' :: (name ++ '/' :: ((date ++ ending) ++
          '\n' :: (mark' ++ title ++ second ++ date ++ last')))) ++ '\n' :: rest := by
    simp [hslash, hfirst, hlast]
  unfold starter starterPreface starterHeading starterTitle
  exact hjoin hslash hfirst hlast

theorem slash_notMem_starterHeading (hname : '/' ∉ name) : '/' ∉ starterHeading name := by
  have htitle : '/' ∉ name.map fun c => if c = '-' then ' ' else c := by
    intro hmem
    obtain ⟨c, hc, heq⟩ := List.mem_map.mp hmem
    split at heq
    · cases heq
    · exact hname (heq ▸ hc)
  have hbegin : '/' ∉ BuiltIns.dateToken ++ ".md -->" := by decide
  simp only [starterHeading, starterTitle, List.mem_append, List.mem_cons, not_or] at hbegin ⊢
  exact ⟨hbegin, by decide, ⟨⟨⟨⟨by decide, htitle⟩, by decide⟩, by decide⟩, by decide⟩⟩

/-- No prompt ends in front of the prompt of a new template. -/
theorem not_closeTag_infix_starterPreface (hname : '/' ∉ name) :
    ¬ Prompt.closeTag <:+: starterPreface name := by
  intro h
  rcases Prompt.closeTag_infix_append_slash (by decide) h with h | ⟨hlast, -⟩
  · rcases Prompt.closeTag_infix_append_slash hname h with h | ⟨-, t, hnext⟩
    · exact Prompt.not_closeTag_infix_of_notMem (slash_notMem_starterHeading hname) h
    · have hfirst : some 'p' = some '\x7b' := congrArg List.head? hnext
      cases hfirst
  · exact absurd hlast (by decide)

/-- A new template asks one question. -/
theorem questions_starter (hname : '/' ∉ name) :
    Prompt.questions (starter name) = [starterQuestion] := by
  have hquestion : Prompt.IsQuestion starterQuestion :=
    ⟨by decide, Prompt.not_closeTag_infix_of_notMem (by decide)⟩
  have hnotes : Prompt.cut ('\n' :: starterNotes ++ []) =
      ('\n' :: starterNotes).map .plain ++ Prompt.cut [] :=
    Prompt.cut_append_of_lines (Or.inr (by decide))
      (Prompt.not_closeTag_infix_of_notMem (by decide)) []
  rw [List.append_nil] at hnotes
  rw [Prompt.questions, starter_eq, List.append_cons,
    Prompt.cut_append_of_lines (Or.inr (by simp))
      (Prompt.not_closeTag_infix_append_newline (not_closeTag_infix_starterPreface hname)),
    Prompt.cut_write hquestion, hnotes, Prompt.asked_plain, Prompt.asked, Prompt.asked_plain]
  rfl

/-- A new template declares nothing. -/
theorem ofContent_starter (hname : '/' ∉ name) : Variable.ofContent (starter name) = .ok [] := by
  have hpreface := not_closeTag_infix_starterPreface hname
  have hwrite : '\n' ∉ Prompt.write starterQuestion := by decide
  have hdeclared : Variable.declared (starter name) = [] := by
    rw [Variable.declared, Text.lines, starter_eq, Text.splitOn_append_sep,
      Text.splitOn_append_cons hwrite, List.filterMap_eq_nil_iff]
    intro line hline
    rcases List.mem_append.mp hline with hline | hline
    · exact Variable.ofLine?_eq_none_of_not_closeTag fun hclose =>
        hpreface (hclose.trans (Text.infix_of_mem_splitOn hline))
    · rcases List.mem_cons.mp hline with rfl | hline
      · rw [Prompt.write, Prompt.openTag_eq]
        exact Variable.ofLine?_cons_of_not_isNameChar (by decide)
      · exact Variable.ofLine?_eq_none_of_not_closeTag fun hclose =>
          Prompt.not_closeTag_infix_of_notMem (s := starterNotes) (by decide)
            (hclose.trans (Text.infix_of_mem_splitOn hline))
  rw [Variable.ofContent, hdeclared]
  rfl

/-- The first line of a new template begins like a directive, and is one with the name in it. -/
theorem lines_starter (name : Text) :
    ∃ shown rest, Text.lines (starter name) =
      (("<!-- Path: " ++ BuiltIns.baseToken) ++ '/' :: shown) :: rest ∧
      ('\n' ∉ name → shown = name ++ '/' :: (BuiltIns.dateToken ++ ".md -->")) := by
  have hmark : '\n' ∉ ("<!-- Path: " ++ BuiltIns.baseToken) ++ ['/'] := by decide
  have hbegin : '\n' ∉ '/' :: (BuiltIns.dateToken ++ ".md -->") := by decide
  have hlines {shown : Text} {more : List Text}
      (h : Text.splitOn '\n' (name ++ '/' :: starterHeading name) = shown :: more) :
      ∃ rest, Text.lines (starter name) =
        (("<!-- Path: " ++ BuiltIns.baseToken) ++ '/' :: shown) :: rest := by
    have hpreface := Text.splitOn_append_of_notMem hmark h
    rw [List.append_assoc, List.append_assoc] at hpreface
    refine ⟨more ++ Text.splitOn '\n' (Prompt.write starterQuestion ++ '\n' :: starterNotes), ?_⟩
    rw [Text.lines, starter_eq, Text.splitOn_append_sep]
    exact congrArg (· ++ _) hpreface
  by_cases hline : '\n' ∈ name
  · obtain ⟨shown, more, hsplit⟩ := List.exists_cons_of_ne_nil
      (Text.splitOn_ne_nil '\n' (name ++ '/' :: starterHeading name))
    obtain ⟨rest, hrest⟩ := hlines hsplit
    exact ⟨shown, rest, hrest, fun hno => absurd hline hno⟩
  · have hshown : '\n' ∉ name ++ '/' :: (BuiltIns.dateToken ++ ".md -->") := by
      rw [List.mem_append, not_or]
      exact ⟨hline, hbegin⟩
    have hsplit := Text.splitOn_append_cons hshown (starterTitle name)
    rw [List.append_assoc] at hsplit
    obtain ⟨rest, hrest⟩ := hlines hsplit
    exact ⟨_, rest, hrest, fun _ => rfl⟩

/-- What the directive of a new template tells if it is in one line. -/
theorem tells_starter (name : Text) :
    PathDirective.Tells
      (("<!-- Path: " ++ BuiltIns.baseToken) ++ '/' :: (name ++ '/' ::
        (BuiltIns.dateToken ++ ".md -->")))
      (BuiltIns.baseToken ++ "/" ++ name ++ "/" ++ BuiltIns.dateToken ++ ".md") := by
  have hfirst : ("<!-- Path: " : Text) = PathDirective.marker ++ [' '] := by decide
  have hlast : (".md -->" : Text) = (".md" : Text) ++ ' ' :: PathDirective.ending := by decide
  have htells {first base date last behind : Text} (hfirst : first = PathDirective.marker ++ [' '])
      (hlast : last = behind ++ ' ' :: PathDirective.ending) (hbase : base ≠ [])
      (hhead : ∀ c ∈ base.head?, Text.isBlank c = false) (hbehind : behind ≠ [])
      (hend : ∀ c ∈ behind.getLast?, Text.isBlank c = false) :
      PathDirective.Tells ((first ++ base) ++ '/' :: (name ++ '/' :: (date ++ last)))
        (base ++ ['/'] ++ name ++ ['/'] ++ date ++ behind) := by
    have hline : (first ++ base) ++ '/' :: (name ++ '/' :: (date ++ last)) =
        PathDirective.marker ++ ' ' ::
          ((base ++ ['/'] ++ name ++ ['/'] ++ date ++ behind) ++ ' ' :: PathDirective.ending) := by
      simp [hfirst, hlast]
    rw [hline]
    refine PathDirective.tells_between_blanks (by simp [hbase]) ?_ ?_
    · simp only [List.append_assoc]
      rwa [List.head?_append_of_ne_nil _ hbase]
    · rwa [Text.getLast?_append_of_ne_nil hbehind]
  refine htells hfirst hlast (by decide) ?_ (by decide) ?_
  · rintro c ⟨rfl⟩
    decide
  · rintro c ⟨rfl⟩
    decide

/-- The directive of a new template is not empty, and says where notes go if it is in one line. -/
theorem directive_starter (name : Text) :
    ∃ target, PathDirective.ofContent (starter name) = .ok target ∧ target ≠ [] ∧
      ('\n' ∉ name →
        target = BuiltIns.baseToken ++ "/" ++ name ++ "/" ++ BuiltIns.dateToken ++ ".md") := by
  obtain ⟨shown, rest, hlines, hshown⟩ := lines_starter name
  let line : Text := ("<!-- Path: " ++ BuiltIns.baseToken) ++ '/' :: shown
  have hlines : Text.lines (starter name) = line :: rest := hlines
  have hbegins : PathDirective.marker <+: line :=
    (show PathDirective.marker <+: "<!-- Path: " ++ BuiltIns.baseToken by decide).trans
      (List.prefix_append _ _)
  have hmem : '$' ∈ line :=
    List.mem_append_left _ (show '$' ∈ "<!-- Path: " ++ BuiltIns.baseToken by decide)
  obtain ⟨inner, hmarks, hinner⟩ :=
    PathDirective.isDirective_of_begins hbegins hmem (by decide) (by decide)
  have htarget := PathDirective.mem_target hmarks hinner (by decide) (by decide)
  have hne : PathDirective.target line ≠ [] := List.ne_nil_of_mem htarget
  refine ⟨PathDirective.target line, ?_, hne, fun hname => ?_⟩
  · refine PathDirective.ofContent_eq_ok.mpr ⟨some (PathDirective.target line), ?_, by simpa,
      (Option.getD_some ..).symm⟩
    rw [hlines]
    exact .here (PathDirective.tells_iff.mpr ⟨PathDirective.isDirective_iff.mpr ⟨_, hmarks⟩, rfl⟩)
  · have htells := tells_starter name
    rw [← hshown hname] at htells
    exact (PathDirective.tells_iff.mp htells).2

end Layout

/-- The template that the file of a new template is read as. -/
structure IsStarter (filename : Text) (priority : Int) (category name : Text) (t : Template) :
    Prop where
  filename_eq : t.filename = filename
  priority_eq : t.priority = priority
  category_eq : t.category = category
  name_eq : t.name = name
  body_eq : t.body = starter name
  declared_eq : t.declared = []
  questions_eq : t.questions = [starterQuestion]
  hasTarget : t.hasTarget = true
  target_eq : '\n' ∉ name →
    t.target = BuiltIns.baseToken ++ "/" ++ name ++ "/" ++ BuiltIns.dateToken ++ ".md"

/-- A new template is read as what it was made of. -/
theorem parse_starter {path : Text} {parts : Filename} (hname : '/' ∉ parts.name)
    (hfile : Filename.ofText (Path.ofText path).name = .ok parts) :
    ∃ t, Template.parse path (starter parts.name) = .ok t ∧
      IsStarter (Path.ofText path).name parts.priority parts.category parts.name t := by
  obtain ⟨target, htarget, hne, hone⟩ := directive_starter parts.name
  have hdeclared := ofContent_starter hname
  have hquestions := questions_starter hname
  -- the text is named, so that no step looks into it
  generalize hcontent : starter parts.name = content at *
  refine ⟨_, Template.parse_eq_ok.mpr ⟨parts, target, [], hfile, htarget, hdeclared, rfl⟩, ?_⟩
  exact ⟨rfl, rfl, rfl, rfl, hcontent.symm, rfl, hquestions, by simpa [Template.hasTarget], hone⟩

end Notebook

end NoteTemplates
