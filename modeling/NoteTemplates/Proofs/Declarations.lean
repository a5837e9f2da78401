import Mathlib.Data.List.NodupEquivFin
import NoteTemplates.Proofs.Format

/-!
# Declarations are prompts

A prompt is on one line, so a text is cut at its prompts line by line. The line of a
declaration begins with a name, an equals sign and white space, in which no prompt begins, and
the prompt behind them is found with the question that the declaration has. So it is the first
prompt on its line, and the prompts of the declarations are among those of the text, in the
same order, whatever stands on other lines or behind them.

Input: a text that declares no name twice.

Results: `cut_of_lines` for the cut of a text by lines, `cut_of_declares` for that of the line
of a declaration, and `declared_are_asked`, which puts them together.
-/

namespace NoteTemplates
namespace Prompt

/-- The prompts among pieces, with the places where they begin if the pieces begin at one. -/
def sitesFrom : Nat → List (Text.Piece Text) → List (Nat × Text)
  | _, [] => []
  | place, .plain _ :: pieces => sitesFrom (place + 1) pieces
  | place, .found q :: pieces => (place, q) :: sitesFrom (place + (write q).length) pieces

/-- The prompts of a text with the places where they begin, counted in characters. -/
def sites (s : Text) : List (Nat × Text) :=
  sitesFrom 0 (cut s)

/-- The place where a line begins behind others. -/
def lineStart (earlier : List Text) : Nat :=
  (earlier.map fun line => line.length + 1).sum

/-- A place on a line that stands behind others. -/
def OnLine (earlier : List Text) (line : Text) (place : Nat) : Prop :=
  lineStart earlier ≤ place ∧ place < lineStart earlier + line.length

/-- One of the prompts is on a line behind others, and none begins there before it. -/
def IsFirstOn (sites : List (Nat × Text)) (earlier : List Text) (line : Text) (k : Nat) : Prop :=
  ∃ site, sites[k]? = some site ∧ OnLine earlier line site.1 ∧
    ∀ other ∈ sites, OnLine earlier line other.1 → site.1 ≤ other.1

section Sites

variable {place : Nat} {pieces : List (Text.Piece Text)} {site : Nat × Text} {s : Text}

theorem map_sitesFrom (place : Nat) (pieces : List (Text.Piece Text)) :
    (sitesFrom place pieces).map (·.2) = asked pieces := by
  induction pieces generalizing place with
  | nil => rfl
  | cons piece pieces ih =>
      cases piece with
      | plain c => exact ih (place + 1)
      | found q => rw [sitesFrom, asked, List.map_cons, ih]

/-- The questions of a text are those of its prompts. -/
theorem map_sites (s : Text) : (sites s).map (·.2) = questions s :=
  map_sitesFrom 0 (cut s)

theorem sitesFrom_append (place : Nat) (pieces more : List (Text.Piece Text)) :
    sitesFrom place (pieces ++ more) =
      sitesFrom place pieces ++ sitesFrom (place + (written pieces).length) more := by
  induction pieces generalizing place with
  | nil => rfl
  | cons piece pieces ih =>
      have hwritten : (written (piece :: pieces)).length =
          (Text.Piece.write write piece).length + (written pieces).length := by
        rw [written, List.flatMap_cons, List.length_append]
        rfl
      cases piece with
      | plain c =>
          rw [List.cons_append, sitesFrom, sitesFrom, ih, hwritten, Nat.add_assoc]
          rfl
      | found q =>
          rw [List.cons_append, sitesFrom, sitesFrom, ih, hwritten, Nat.add_assoc]
          rfl

theorem sitesFrom_plain (place : Nat) (s : Text) (pieces : List (Text.Piece Text)) :
    sitesFrom place (s.map .plain ++ pieces) = sitesFrom (place + s.length) pieces := by
  induction s generalizing place with
  | nil => rfl
  | cons c s ih =>
      rw [List.map_cons, List.cons_append, sitesFrom, ih, List.length_cons]
      congr 1
      omega

/-- A prompt is found in the text at its place. -/
theorem write_prefix_of_mem_sitesFrom (h : site ∈ sitesFrom place pieces) :
    place ≤ site.1 ∧ write site.2 <+: (written pieces).drop (site.1 - place) := by
  induction pieces generalizing place with
  | nil => cases h
  | cons piece pieces ih =>
      cases piece with
      | plain c =>
          obtain ⟨hplace, hwrite⟩ := ih h
          refine ⟨Nat.le_of_succ_le hplace, ?_⟩
          have hdrop : site.1 - place = site.1 - (place + 1) + 1 := by omega
          rw [hdrop]
          exact hwrite
      | found q =>
          rcases List.mem_cons.mp h with rfl | h
          · rw [Nat.sub_self]
            exact ⟨Nat.le_refl place, List.prefix_append (write q) _⟩
          · obtain ⟨hplace, hwrite⟩ := ih h
            refine ⟨by omega, ?_⟩
            have hdrop : site.1 - place =
                (write q).length + (site.1 - (place + (write q).length)) := by omega
            have hbehind : (written (.found q :: pieces)).drop (write q).length =
                written pieces := List.drop_left
            rw [hdrop, ← List.drop_drop, hbehind]
            exact hwrite

/-- A prompt begins in the text of the pieces. -/
theorem lt_of_mem_sitesFrom (h : site ∈ sitesFrom place pieces) :
    site.1 < place + (written pieces).length := by
  obtain ⟨hplace, hwrite⟩ := write_prefix_of_mem_sitesFrom h
  have hlength := hwrite.length_le
  have hpos := List.length_pos_iff.mpr (write_ne_nil site.2)
  rw [List.length_drop] at hlength
  omega

end Sites

section Lines

variable {s t content line : Text} {earlier later : List Text}

/-- No prompt reaches over the end of a line. -/
theorem cut_append_newline (s t : Text) :
    cut (s ++ '\n' :: t) = cut s ++ .plain '\n' :: cut t := by
  induction s using cut_induction with
  | nil => exact cut_cons (question?_eq_none fun hc => absurd hc (by decide))
  | found q rest hq ih =>
      rw [List.append_assoc, cut_write hq, cut_write hq, ih, List.cons_append]
  | plain c s hno ih =>
      have hno' : question? (c :: (s ++ '\n' :: t)) = none := by
        rw [Option.eq_none_iff_forall_ne_some]
        intro q hq
        obtain ⟨rest, hrest, hquestion⟩ := question?_eq_some.mp hq
        have hline : '\n' ∉ write q := by
          have htags : '\n' ∉ openTag ∧ '\n' ∉ closeTag := by decide
          simp [write, htags, hquestion.1]
        obtain ⟨behind, hbehind⟩ :=
          Text.prefix_of_prefix_append_cons (s := c :: s) hline ⟨rest, hrest.symm⟩
        rw [question?_eq_some.mpr ⟨behind, hbehind.symm, hquestion⟩] at hno
        cases hno
      rw [List.cons_append, cut_cons hno', cut_cons hno, ih, List.cons_append]

/-- No prompt begins where there is no bracket. -/
theorem cut_append_of_notMem (h : '<' ∉ s) (t : Text) :
    cut (s ++ t) = s.map .plain ++ cut t := by
  induction s with
  | nil => rfl
  | cons c s ih =>
      rw [List.mem_cons, not_or] at h
      rw [List.cons_append, cut_cons (question?_eq_none fun hc => absurd hc.symm h.1), ih h.2]
      rfl

/-- The pieces of lines, each with the line feed behind it. -/
def ended (lines : List Text) : List (Text.Piece Text) :=
  lines.flatMap fun line => cut line ++ [.plain '\n']

/-- The pieces of lines, each with the line feed in front of it. -/
def continued (lines : List Text) : List (Text.Piece Text) :=
  lines.flatMap fun line => .plain '\n' :: cut line

theorem length_written_ended (lines : List Text) :
    (written (ended lines)).length = lineStart lines := by
  induction lines with
  | nil => rfl
  | cons line lines ih =>
      have hwritten : written (ended (line :: lines)) =
          line ++ ['\n'] ++ written (ended lines) := by
        rw [ended, List.flatMap_cons, written, List.flatMap_append, List.flatMap_append,
          ← written, written_cut]
        rfl
      rw [hwritten, List.length_append, ih]
      simp [lineStart]

/-- A text is cut line by line. -/
theorem cut_of_lines (h : Text.lines content = earlier ++ line :: later) :
    cut content = ended earlier ++ (cut line ++ continued later) := by
  have hjoined : content = Text.unlines (earlier ++ line :: later) := by
    rw [← h]
    exact (Text.joinWith_splitOn '\n' content).symm
  have hjoin (line : Text) {lines : List Text} (hlines : lines ≠ []) :
      cut (Text.unlines (line :: lines)) = cut line ++ .plain '\n' :: cut (Text.unlines lines) := by
    rw [Text.unlines, Text.joinWith_cons hlines, List.append_assoc]
    exact cut_append_newline line _
  rw [hjoined]
  clear h hjoined
  induction earlier with
  | nil =>
      induction later generalizing line with
      | nil => simp [ended, continued, Text.unlines, Text.joinWith]
      | cons next later ih =>
          rw [List.nil_append, hjoin line (by simp), ← List.nil_append (next :: later), ih]
          rfl
  | cons first earlier ih =>
      rw [List.cons_append, hjoin first (by simp), ih, ended, ended, List.flatMap_cons]
      simp

end Lines

end Prompt

namespace Variable

open Prompt (sites sitesFrom ended continued lineStart OnLine IsFirstOn)

variable {content line : Text} {v : Variable} {vs : List Variable} {i j : Nat}
  {earlier earlier' later : List Text}

/--
The line that declares a variable of a list by its position, and the lines in front of it,
which declare the variables in front of it.
-/
structure DeclaredOn (content : Text) (vs : List Variable) (i : Nat) (earlier : List Text)
    (line : Text) : Prop where
  lines : ∃ later, Text.lines content = earlier ++ line :: later
  before : Declarations earlier (vs.take i)
  declares : ∃ v, vs[i]? = some v ∧ Declares line v

section Lines

/-- The first prompt on the line of a declaration is that of the declaration. -/
theorem cut_of_declares (h : Declares line v) :
    ∃ front rest, Prompt.cut line = front.map .plain ++ .found v.question :: Prompt.cut rest ∧
      line = front ++ (Prompt.write v.question ++ rest) := by
  obtain ⟨-, hname, hquestion, before, behind, rest, hline, hbefore, hbehind⟩ := h
  have hfront : line =
      (v.name ++ (before ++ '=' :: behind)) ++ (Prompt.write v.question ++ rest) := by
    rw [hline]
    simp
  have hno {s : Text} {p : Char → Bool} (hs : ∀ c ∈ s, p c = true) (hp : p '<' = false) :
      '<' ∉ s := by
    intro hmem
    rw [hs '<' hmem] at hp
    cases hp
  have hopen : '<' ∉ v.name ++ (before ++ '=' :: behind) := by
    simp only [List.mem_append, List.mem_cons, not_or]
    exact ⟨hno hname (by decide), hno hbefore (by decide), by decide, hno hbehind (by decide)⟩
  refine ⟨v.name ++ (before ++ '=' :: behind), rest, ?_, hfront⟩
  rw [hfront, Prompt.cut_append_of_notMem hopen, Prompt.cut_write hquestion]

/-- Every declared variable has a line. -/
theorem exists_declaredOn (h : Declarations (Text.lines content) vs) (hi : i < vs.length) :
    ∃ earlier line, DeclaredOn content vs i earlier line := by
  have hsplit : (Text.lines content).filterMap ofLine? = vs.take i ++ vs[i] :: vs.drop (i + 1) := by
    rw [declarations_iff.mp h, List.getElem_cons_drop, List.take_append_drop]
  obtain ⟨front, back, hlines, hfront, hback⟩ := List.filterMap_eq_append_iff.mp hsplit
  obtain ⟨skipped, line, later, rfl, hskipped, hline, -⟩ := List.filterMap_eq_cons_iff.mp hback
  refine ⟨front ++ skipped, line, ⟨later, by rw [hlines, List.append_assoc]⟩, ?_,
    vs[i], List.getElem?_eq_getElem hi, ofLine?_eq_some.mp hline⟩
  rw [declarations_iff, List.filterMap_append, hfront, List.filterMap_eq_nil_iff.mpr hskipped,
    List.append_nil]

/-- The line of a variable stands in front of that of a later one. -/
theorem DeclaredOn.concat_prefix_of_lt {other : Text} (h : DeclaredOn content vs i earlier line)
    (h' : DeclaredOn content vs j earlier' other) (hij : i < j) :
    earlier ++ [line] <+: earlier' := by
  obtain ⟨later, hlines⟩ := h.lines
  obtain ⟨later', hlines'⟩ := h'.lines
  obtain ⟨v, hv, -⟩ := h.declares
  obtain ⟨w, hw, -⟩ := h'.declares
  have hi : i < vs.length := List.getElem?_eq_some_iff.mp hv |>.1
  have hj : j < vs.length := List.getElem?_eq_some_iff.mp hw |>.1
  have hline : earlier ++ [line] <+: Text.lines content := ⟨later, by simp [hlines]⟩
  have hother : earlier' <+: Text.lines content := ⟨other :: later', hlines'.symm⟩
  rcases List.prefix_or_prefix_of_prefix hline hother with hprefix | hshort
  · exact hprefix
  · rcases List.prefix_concat_iff.mp hshort with rfl | hshort
    · exact List.prefix_rfl
    · -- the lines in front of the later variable declare more than those of the earlier one
      have hfewer := (hshort.filterMap ofLine?).length_le
      rw [declarations_iff.mp h.before, declarations_iff.mp h'.before, List.length_take,
        List.length_take] at hfewer
      omega

/-- The prompt of a declaration is the first one on its line, behind those of the lines before. -/
theorem DeclaredOn.isFirstOn (h : DeclaredOn content vs i earlier line) :
    IsFirstOn (sites content) earlier line (sitesFrom 0 (ended earlier)).length ∧
      ∃ v, vs[i]? = some v ∧
        (Prompt.questions content)[(sitesFrom 0 (ended earlier)).length]? = some v.question := by
  obtain ⟨later, hlines⟩ := h.lines
  obtain ⟨v, hv, hdeclares⟩ := h.declares
  obtain ⟨front, rest, hcut, hline⟩ := cut_of_declares hdeclares
  let own : Nat × Text := (lineStart earlier + front.length, v.question)
  have hon : sitesFrom (lineStart earlier) (Prompt.cut line) =
      own :: sitesFrom (own.1 + (Prompt.write v.question).length) (Prompt.cut rest) := by
    rw [hcut, Prompt.sitesFrom_plain]
    rfl
  have hsites : sites content = sitesFrom 0 (ended earlier) ++
      (sitesFrom (lineStart earlier) (Prompt.cut line) ++
        sitesFrom (lineStart earlier + line.length) (continued later)) := by
    rw [sites, Prompt.cut_of_lines hlines, Prompt.sitesFrom_append, Prompt.length_written_ended,
      Nat.zero_add, Prompt.sitesFrom_append, Prompt.written_cut]
  have hown : (sites content)[(sitesFrom 0 (ended earlier)).length]? = some own := by
    rw [hsites, hon]
    simp
  have hlength : front.length < line.length := by
    have hpos := List.length_pos_iff.mpr (Prompt.write_ne_nil v.question)
    rw [hline, List.length_append, List.length_append]
    omega
  refine ⟨⟨own, hown, ⟨Nat.le_add_right _ _, Nat.add_lt_add_left hlength _⟩, ?_⟩, v, hv, ?_⟩
  · rintro other hother ⟨hstart, hend⟩
    rw [hsites] at hother
    rcases List.mem_append.mp hother with hbefore | hother
    · have hlt := Prompt.lt_of_mem_sitesFrom hbefore
      rw [Prompt.length_written_ended] at hlt
      omega
    · rcases List.mem_append.mp hother with hhere | hbehind
      · rw [hon] at hhere
        rcases List.mem_cons.mp hhere with rfl | hlater
        · exact Nat.le_refl _
        · have hle := (Prompt.write_prefix_of_mem_sitesFrom hlater).1
          omega
      · have hle := (Prompt.write_prefix_of_mem_sitesFrom hbehind).1
        omega
  · rw [← Prompt.map_sites, List.getElem?_map, hown, Option.map_some]

/-- The prompts in front of the line of a variable are fewer than those in front of a later one. -/
theorem DeclaredOn.length_lt {other : Text} (h : DeclaredOn content vs i earlier line)
    (h' : DeclaredOn content vs j earlier' other) (hij : i < j) :
    (sitesFrom 0 (ended earlier)).length < (sitesFrom 0 (ended earlier')).length := by
  obtain ⟨between, rfl⟩ := h.concat_prefix_of_lt h' hij
  obtain ⟨v, -, hdeclares⟩ := h.declares
  obtain ⟨front, rest, hcut, -⟩ := cut_of_declares hdeclares
  have hended : ended (earlier ++ [line] ++ between) =
      ended earlier ++ (Prompt.cut line ++ (.plain '\n' :: ended between)) := by
    simp [ended]
  rw [hended, Prompt.sitesFrom_append, hcut, List.append_assoc, Prompt.sitesFrom_plain,
    List.cons_append, sitesFrom]
  simp

end Lines

/--
The variables of a text are asked for among its prompts. Each prompt is found in the text at
its place, and the questions are those of the prompts. There is a strictly increasing map from
the positions of the variables to those of the questions: a variable has the question to which
it is mapped, and that is the first one on the line which declares the variable, behind the
lines that declare the variables before it. So the questions of the variables are, in their
order, among those of the text.
-/
theorem declared_are_asked (h : ofContent content = .ok vs) :
    (sites content).map (·.2) = Prompt.questions content ∧
    (∀ site ∈ sites content, Prompt.write site.2 <+: content.drop site.1) ∧
    (∃ φ : Fin vs.length → Fin (Prompt.questions content).length, StrictMono φ ∧
      ∀ i, (Prompt.questions content)[φ i] = vs[i].question ∧
        ∃ earlier line, DeclaredOn content vs i earlier line ∧
          IsFirstOn (sites content) earlier line (φ i)) ∧
    (vs.map (·.question)).Sublist (Prompt.questions content) := by
  obtain ⟨hdeclarations, -⟩ := ofContent_eq_ok.mp h
  choose earlier line hon using fun i : Fin vs.length => exists_declaredOn hdeclarations i.isLt
  let count (i : Fin vs.length) : Nat := (sitesFrom 0 (ended (earlier i))).length
  have hquestion (i : Fin vs.length) :
      (Prompt.questions content)[count i]? = some vs[i].question := by
    obtain ⟨-, v, hv, hquestion⟩ := (hon i).isFirstOn
    obtain rfl : vs[i] = v := Option.some.inj ((List.getElem?_eq_getElem i.isLt).symm.trans hv)
    exact hquestion
  have hlength (i : Fin vs.length) : count i < (Prompt.questions content).length :=
    (List.getElem?_eq_some_iff.mp (hquestion i)).1
  let φ (i : Fin vs.length) : Fin (Prompt.questions content).length := ⟨count i, hlength i⟩
  have hmono : StrictMono φ := fun i j hij => (hon i).length_lt (hon j) hij
  have hasked (i : Fin vs.length) : (Prompt.questions content)[φ i] = vs[i].question :=
    (List.getElem?_eq_some_iff.mp (hquestion i)).2
  refine ⟨Prompt.map_sites content, fun site hsite => ?_,
    ⟨φ, hmono, fun i => ⟨hasked i, earlier i, line i, hon i, (hon i).isFirstOn.1⟩⟩, ?_⟩
  · have hfound := (Prompt.write_prefix_of_mem_sitesFrom hsite).2
    rwa [Prompt.written_cut, Nat.sub_zero] at hfound
  · have hcount : (vs.map (·.question)).length = vs.length := List.length_map _
    have hcast : StrictMono (φ ∘ Fin.cast hcount) := hmono.comp (Fin.cast_strictMono hcount)
    refine List.sublist_iff_exists_fin_orderEmbedding_get_eq.mpr
      ⟨OrderEmbedding.ofStrictMono _ hcast, fun i => ?_⟩
    rw [List.get_eq_getElem, List.getElem_map]
    exact (hasked (Fin.cast hcount i)).symm

/-- Tags that are not closed, and prompts behind a declaration, do not come between. -/
theorem declared_are_asked_between_stray_tags :
    let content : Text :=
      "<prompt>\nn = <prompt>N?</prompt><prompt>x</prompt>\n</prompt>\nm=<prompt><prompt>M?</prompt>"
    let vs : List Variable := [⟨"n", "N?"⟩, ⟨"m", "<prompt>M?"⟩]
    ofContent content = .ok vs ∧
      Prompt.questions content = ["N?".toList, "x".toList, "<prompt>M?".toList] ∧
      ∃ φ : Fin vs.length → Fin (Prompt.questions content).length, StrictMono φ ∧
        ∀ i, (Prompt.questions content)[φ i] = vs[i].question := by
  intro content vs
  have hcontent : ofContent content = .ok vs := by decide
  obtain ⟨-, -, ⟨φ, hmono, hφ⟩, -⟩ := declared_are_asked hcontent
  exact ⟨hcontent, by decide, φ, hmono, fun i => (hφ i).1⟩

end Variable
end NoteTemplates
