import NoteTemplates.Proofs.Prompts
import NoteTemplates.Template.Basic

/-!
# The format of templates

What the name of a template file, a path directive and a declaration look like, said without
the functions that read them, and that the functions read exactly that.
-/

namespace NoteTemplates
namespace Text

/-- A text is another with nothing but white space around it, and begins and ends with none. -/
structure Strips (s core : Text) : Prop where
  around : ∃ before after, s = before ++ (core ++ after) ∧
    (∀ c ∈ before, isBlank c = true) ∧ ∀ c ∈ after, isBlank c = true
  first : ∀ c ∈ core.head?, isBlank c = false
  last : ∀ c ∈ core.getLast?, isBlank c = false

section Stripping

variable {p : Char → Bool} {s t core : Text}

theorem dropWhile_append (hs : ∀ c ∈ s, p c = true) (ht : ∀ c ∈ t.head?, p c = false) :
    (s ++ t).dropWhile p = t := by
  rw [List.dropWhile_append_of_pos hs]
  cases t with
  | nil => rfl
  | cons c t => rw [List.dropWhile_cons_of_neg (by simp [ht c (by simp)])]

theorem takeWhile_append (hs : ∀ c ∈ s, p c = true) (ht : ∀ c ∈ t.head?, p c = false) :
    (s ++ t).takeWhile p = s := by
  rw [List.takeWhile_append_of_pos hs]
  cases t with
  | nil => simp
  | cons c t => rw [List.takeWhile_cons_of_neg (by simp [ht c (by simp)]), List.append_nil]

/-- A text is what is dropped from its beginning and a rest that begins otherwise. -/
theorem dropWhile_cases (p : Char → Bool) (s : Text) :
    ∃ before, s = before ++ s.dropWhile p ∧ (∀ c ∈ before, p c = true) ∧
      ∀ c ∈ (s.dropWhile p).head?, p c = false := by
  induction s with
  | nil => exact ⟨[], rfl, by simp, by simp⟩
  | cons d s ih =>
      by_cases hd : p d = true
      · obtain ⟨before, heq, hbefore, hfirst⟩ := ih
        rw [List.dropWhile_cons_of_pos hd]
        exact ⟨d :: before, by rw [List.cons_append, ← heq], by simpa [hd] using hbefore, hfirst⟩
      · rw [List.dropWhile_cons_of_neg hd]
        exact ⟨[], rfl, by simp, by simpa using hd⟩

theorem strips_strip (s : Text) : Strips s (strip s) := by
  obtain ⟨before, hbefore, hblank, hfirst⟩ := dropWhile_cases isBlank s
  obtain ⟨after, hafter, hblank', hlast⟩ :=
    dropWhile_cases isBlank (s.dropWhile isBlank).reverse
  have hcore : s.dropWhile isBlank = strip s ++ after.reverse := by
    have hreverse := congrArg List.reverse hafter
    rw [List.reverse_reverse, List.reverse_append] at hreverse
    exact hreverse
  refine ⟨⟨before, after.reverse, by rw [← hcore, ← hbefore], hblank, ?_⟩, ?_, ?_⟩
  · simpa using hblank'
  · rw [hcore] at hfirst
    cases hstrip : strip s with
    | nil => simp
    | cons c core =>
        rw [hstrip] at hfirst
        simpa using hfirst
  · rw [strip, stripRight, List.getLast?_reverse]
    exact hlast

theorem Strips.strip_eq (h : Strips s core) : strip s = core := by
  obtain ⟨⟨before, after, rfl, hbefore, hafter⟩, hfirst, hlast⟩ := h
  rw [strip, stripLeft, stripRight]
  cases core with
  | nil =>
      have hall : ∀ c ∈ before ++ ([] ++ after), isBlank c = true := by
        intro c hc
        rw [List.nil_append, List.mem_append] at hc
        exact hc.elim (hbefore c) (hafter c)
      have hnone := dropWhile_append (t := []) hall (by simp)
      rw [List.append_nil] at hnone
      rw [hnone]
      rfl
  | cons c core =>
      rw [dropWhile_append hbefore (by simpa using hfirst), List.reverse_append,
        dropWhile_append (by simpa using hafter)
          (fun d hd => hlast d (by rwa [List.head?_reverse] at hd)),
        List.reverse_reverse]

theorem strip_eq_iff : strip s = core ↔ Strips s core :=
  ⟨fun h => h ▸ strips_strip s, Strips.strip_eq⟩

end Stripping

/-- A text is another without one ending, if it has it. -/
def Sheds (ending s core : Text) : Prop :=
  s = core ++ ending ∨ s = core ∧ ¬ ending <:+ s

theorem dropSuffix_eq_iff {ending s core : Text} :
    dropSuffix ending s = core ↔ Sheds ending s core := by
  constructor
  · rintro rfl
    by_cases hends : ending <:+ s
    · obtain ⟨core, rfl⟩ := hends
      exact Or.inl (by rw [dropSuffix_append])
    · exact Or.inr ⟨(dropSuffix_of_not_suffix hends).symm, hends⟩
  · rintro (rfl | ⟨rfl, hends⟩)
    · exact dropSuffix_append ending core
    · exact dropSuffix_of_not_suffix hends

end Text

namespace PathDirective

variable {line rest told : Text} {lines : List Text}

/-- A line that is a directive, and what stands behind its marker. -/
def Marks (line rest : Text) : Prop :=
  Text.Strips line (marker ++ rest)

/--
What a directive tells: what stands behind the marker, without the white space around it,
without one ending, and without the white space that was in front of that.
-/
def Tells (line told : Text) : Prop :=
  ∃ rest inner core, Marks line rest ∧ Text.Strips rest inner ∧ Text.Sheds ending inner core ∧
    Text.Strips core told

/-- What the first directive among lines tells, if there is one. -/
inductive FirstTells : List Text → Option Text → Prop
  | absent : FirstTells [] none
  | here {line told : Text} {lines : List Text} (h : Tells line told) :
      FirstTells (line :: lines) (some told)
  | later {line : Text} {lines : List Text} {told : Option Text}
      (h : ∀ rest, ¬ Marks line rest) (behind : FirstTells lines told) :
      FirstTells (line :: lines) told

theorem isDirective_iff : isDirective line = true ↔ ∃ rest, Marks line rest := by
  rw [isDirective, Text.startsWith_iff]
  constructor
  · rintro ⟨rest, hrest⟩
    exact ⟨rest, Text.strip_eq_iff.mp hrest.symm⟩
  · rintro ⟨rest, hrest⟩
    exact ⟨rest, (Text.strip_eq_iff.mpr hrest).symm⟩

/-- A directive tells what is read in it. -/
theorem tells_iff : Tells line told ↔ isDirective line = true ∧ target line = told := by
  constructor
  · rintro ⟨rest, inner, core, hline, hrest, hinner, hcore⟩
    refine ⟨isDirective_iff.mpr ⟨rest, hline⟩, ?_⟩
    rw [target, Text.strip_eq_iff.mpr hline, Text.dropPrefix_append, Text.strip_eq_iff.mpr hrest,
      Text.dropSuffix_eq_iff.mpr hinner, Text.strip_eq_iff.mpr hcore]
  · rintro ⟨hdirective, rfl⟩
    obtain ⟨rest, hline⟩ := isDirective_iff.mp hdirective
    refine ⟨rest, Text.strip rest, _, hline, Text.strips_strip rest,
      Text.dropSuffix_eq_iff.mp rfl, ?_⟩
    rw [target, Text.strip_eq_iff.mpr hline, Text.dropPrefix_append]
    exact Text.strips_strip _

/-- The first directive among lines is the one that is looked for. -/
theorem firstTells_iff {told : Option Text} :
    FirstTells lines told ↔ (lines.find? isDirective).map target = told := by
  induction lines generalizing told with
  | nil =>
      constructor
      · intro h
        cases h
        rfl
      · rintro rfl
        exact .absent
  | cons line lines ih =>
      by_cases hline : isDirective line = true
      · rw [List.find?_cons_of_pos hline, Option.map_some]
        constructor
        · intro h
          cases h with
          | here htells => rw [(tells_iff.mp htells).2]
          | later hno =>
              obtain ⟨rest, hrest⟩ := isDirective_iff.mp hline
              exact absurd hrest (hno rest)
        · rintro rfl
          exact .here (tells_iff.mpr ⟨hline, rfl⟩)
      · have hno : ∀ rest, ¬ Marks line rest :=
          fun rest hrest => hline (isDirective_iff.mpr ⟨rest, hrest⟩)
        rw [List.find?_cons_of_neg hline]
        constructor
        · intro h
          cases h with
          | here htells => exact absurd (tells_iff.mp htells).1 hline
          | later _ behind => exact ih.mp behind
        · exact fun h => .later hno (ih.mpr h)

/-- What a text tells is read, if its first directive is not empty. -/
theorem ofContent_eq_ok {content target : Text} :
    ofContent content = .ok target ↔
      ∃ told, FirstTells (Text.lines content) told ∧ told ≠ some [] ∧ target = told.getD [] := by
  simp only [firstTells_iff, ofContent]
  cases (Text.lines content).find? isDirective with
  | none =>
      constructor
      · intro h
        cases h
        exact ⟨none, rfl, by simp, rfl⟩
      · rintro ⟨told, rfl, -, rfl⟩
        rfl
  | some line =>
      dsimp only [Option.map_some]
      by_cases hempty : PathDirective.target line = []
      · simp [hempty]
      · rw [if_neg (by simpa using hempty)]
        constructor
        · intro h
          cases h
          exact ⟨_, rfl, by simpa using hempty, rfl⟩
        · rintro ⟨told, rfl, -, rfl⟩
          rfl

/-- A text whose first directive is empty is refused. -/
theorem ofContent_eq_error {content : Text} {e : TemplateError} :
    ofContent content = .error e ↔
      FirstTells (Text.lines content) (some []) ∧
        e = { kind := .invalidPathSyntax, detail := "empty path" } := by
  simp only [firstTells_iff, ofContent]
  cases (Text.lines content).find? isDirective with
  | none => simp
  | some line =>
      dsimp only [Option.map_some]
      by_cases hempty : PathDirective.target line = []
      · simp [hempty, eq_comm]
      · simp [hempty]

end PathDirective

namespace Variable

variable {line content name : Text} {lines : List Text} {v w : Variable} {vs : List Variable}

/--
A line declares a variable: the name in front, an equals sign with white space around it, and
a prompt.
-/
def Declares (line : Text) (v : Variable) : Prop :=
  v.name ≠ [] ∧ (∀ c ∈ v.name, isNameChar c = true) ∧ Prompt.IsQuestion v.question ∧
    ∃ before behind rest,
      line = v.name ++ (before ++ '=' :: (behind ++ (Prompt.write v.question ++ rest))) ∧
      (∀ c ∈ before, Text.isAsciiBlank c = true) ∧ ∀ c ∈ behind, Text.isAsciiBlank c = true

/-- The variables that lines declare, in the order of the lines. -/
inductive Declarations : List Text → List Variable → Prop
  | none : Declarations [] []
  | declares {line : Text} {lines : List Text} {v : Variable} {vs : List Variable}
      (h : Declares line v) (behind : Declarations lines vs) :
      Declarations (line :: lines) (v :: vs)
  | other {line : Text} {lines : List Text} {vs : List Variable}
      (h : ∀ v, ¬ Declares line v) (behind : Declarations lines vs) :
      Declarations (line :: lines) vs

/-- No two lines declare the same name. -/
def Distinct (lines : List Text) : Prop :=
  lines.Pairwise fun line other =>
    ∀ v w, Declares line v → Declares other w → v.name ≠ w.name

/-- The first line that declares a name that a line before it declares. -/
def Repeats (lines : List Text) (name : Text) : Prop :=
  ∃ earlier line later v, lines = earlier ++ line :: later ∧ Distinct earlier ∧
    Declares line v ∧ v.name = name ∧ ∃ other ∈ earlier, ∃ w, Declares other w ∧ w.name = name

section Lines

theorem isNameChar_of_isAsciiBlank {c : Char} (h : Text.isAsciiBlank c = true) :
    isNameChar c = false := by
  simp only [Text.isAsciiBlank, Bool.or_eq_true, decide_eq_true_eq, Bool.and_eq_true] at h
  rcases h with rfl | ⟨-, hhigh⟩
  · decide
  · have hbound : c.val.toNat ≤ 13 := hhigh
    have hlow (n : UInt32) (hn : 13 < n.toNat) : ¬ n ≤ c.val := by
      rw [UInt32.le_iff_toNat_le]
      omega
    have hne : c ≠ '_' := by
      rintro rfl
      exact absurd hbound (by decide)
    simp [isNameChar, Char.isAlphanum, Char.isAlpha, Char.isUpper, Char.isLower, Char.isDigit,
      hne, hlow]

/-- A declaration is read as what it declares. -/
theorem ofLine?_eq_some : ofLine? line = some v ↔ Declares line v := by
  constructor
  · intro h
    obtain ⟨before, hbefore, hblank, -⟩ :=
      Text.dropWhile_cases Text.isAsciiBlank (line.dropWhile isNameChar)
    simp only [ofLine?] at h
    split at h
    · cases h
    · rename_i hname
      split at h
      · rename_i rest hsign
        rw [hsign] at hbefore
        obtain ⟨behind, hbehind, hblank', -⟩ := Text.dropWhile_cases Text.isAsciiBlank rest
        obtain ⟨q, hq, rfl⟩ := Option.map_eq_some_iff.mp h
        obtain ⟨tail, htail, hquestion⟩ := Prompt.question?_eq_some.mp hq
        rw [htail] at hbehind
        refine ⟨by simpa using hname, List.all_eq_true.mp List.all_takeWhile, hquestion,
          before, behind, tail, ?_, hblank, hblank'⟩
        rw [← hbehind, ← hbefore, List.takeWhile_append_dropWhile]
      · cases h
  · rintro ⟨hne, hname, hquestion, before, behind, rest, rfl, hbefore, hbehind⟩
    have hsign : ∀ c ∈ (before ++ '=' :: (behind ++ (Prompt.write v.question ++ rest))).head?,
        isNameChar c = false := by
      intro c hc
      cases before with
      | nil =>
          obtain rfl : '=' = c := by simpa using hc
          decide
      | cons d before =>
          obtain rfl : d = c := by simpa using hc
          exact isNameChar_of_isAsciiBlank (hbefore d List.mem_cons_self)
    have hprompt : ∀ c ∈ (Prompt.write v.question ++ rest).head?,
        Text.isAsciiBlank c = false := by
      intro c hc
      rw [Prompt.write, Prompt.openTag_eq] at hc
      obtain rfl : '<' = c := by simpa using hc
      decide
    have hempty : v.name.isEmpty = false := by simpa using hne
    have hequals : ∀ c ∈ ('=' :: (behind ++ (Prompt.write v.question ++ rest))).head?,
        Text.isAsciiBlank c = false := by
      intro c hc
      obtain rfl : '=' = c := by simpa using hc
      decide
    simp only [ofLine?, Text.takeWhile_append hname hsign, Text.dropWhile_append hname hsign,
      Text.dropWhile_append hbefore hequals, hempty, Text.dropWhile_append hbehind hprompt,
      Prompt.question?_eq_some.mpr ⟨rest, rfl, hquestion⟩]
    rfl

theorem declarations_iff : Declarations lines vs ↔ lines.filterMap ofLine? = vs := by
  induction lines generalizing vs with
  | nil =>
      constructor
      · intro h
        cases h
        rfl
      · rintro rfl
        exact .none
  | cons line lines ih =>
      cases hline : ofLine? line with
      | none =>
          have hno : ∀ v, ¬ Declares line v := fun v hv => by
            rw [ofLine?_eq_some.mpr hv] at hline
            cases hline
          rw [List.filterMap_cons_none hline]
          constructor
          · intro h
            cases h with
            | declares hv => exact absurd hv (hno _)
            | other _ behind => exact ih.mp behind
          · exact fun h => .other hno (ih.mpr h)
      | some v =>
          rw [List.filterMap_cons_some hline]
          constructor
          · intro h
            cases h with
            | declares hv behind =>
                rw [ofLine?_eq_some.mpr hv] at hline
                cases hline
                rw [ih.mp behind]
            | other hno => exact absurd (ofLine?_eq_some.mp hline) (hno v)
          · rintro rfl
            exact .declares (ofLine?_eq_some.mp hline) (ih.mpr rfl)

/-- What lines declare, one of the lines declares. -/
theorem Declarations.exists_declares (h : Declarations lines vs) (hv : v ∈ vs) :
    ∃ line ∈ lines, Declares line v := by
  induction h with
  | none => cases hv
  | @declares line lines w vs hline behind ih =>
      rcases List.mem_cons.mp hv with rfl | hv
      · exact ⟨line, List.mem_cons_self, hline⟩
      · obtain ⟨other, hother, hdeclares⟩ := ih hv
        exact ⟨other, List.mem_cons_of_mem _ hother, hdeclares⟩
  | other _ behind ih =>
      obtain ⟨other, hother, hdeclares⟩ := ih hv
      exact ⟨other, List.mem_cons_of_mem _ hother, hdeclares⟩

end Lines

section Repeating

variable {seen : List Text}

theorem repeated?_eq_none :
    repeated? seen vs = none ↔
      (∀ v ∈ vs, v.name ∉ seen) ∧ vs.Pairwise fun v w => v.name ≠ w.name := by
  induction vs generalizing seen with
  | nil => simp [repeated?]
  | cons v vs ih =>
      rw [repeated?]
      split
      · rename_i hseen
        simp [hseen]
      · rename_i hseen
        rw [ih, List.pairwise_cons]
        constructor
        · rintro ⟨hnew, hvs⟩
          refine ⟨fun w hw => ?_, fun w hw heq => ?_, hvs⟩
          · rcases List.mem_cons.mp hw with rfl | hw
            · exact hseen
            · exact fun hmem => hnew w hw (List.mem_cons_of_mem _ hmem)
          · exact hnew w hw (by simp [heq])
        · rintro ⟨hnew, hfirst, hvs⟩
          refine ⟨fun w hw hmem => ?_, hvs⟩
          rcases List.mem_cons.mp hmem with heq | hmem
          · exact hfirst w hw heq.symm
          · exact hnew w (List.mem_cons_of_mem _ hw) hmem

/-- The name that is reported is that of the first declaration that repeats one. -/
theorem exists_of_repeated? (h : repeated? seen vs = some name) :
    ∃ earlier v later, vs = earlier ++ v :: later ∧ v.name = name ∧
      repeated? seen earlier = none ∧ (name ∈ seen ∨ ∃ w ∈ earlier, w.name = name) := by
  induction vs generalizing seen with
  | nil => cases h
  | cons v vs ih =>
      rw [repeated?] at h
      split at h
      · rename_i hseen
        cases h
        exact ⟨[], v, vs, rfl, rfl, rfl, Or.inl hseen⟩
      · rename_i hseen
        obtain ⟨earlier, w, later, rfl, hname, hnone, hbefore⟩ := ih h
        refine ⟨v :: earlier, w, later, rfl, hname, by rw [repeated?, if_neg hseen, hnone], ?_⟩
        rcases hbefore with hmem | ⟨u, hu, huname⟩
        · rcases List.mem_cons.mp hmem with heq | hmem
          · exact Or.inr ⟨v, List.mem_cons_self, heq.symm⟩
          · exact Or.inl hmem
        · exact Or.inr ⟨u, List.mem_cons_of_mem _ hu, huname⟩

theorem distinct_iff :
    Distinct lines ↔ (lines.filterMap ofLine?).Pairwise fun v w => v.name ≠ w.name := by
  rw [List.pairwise_filterMap, Distinct]
  simp only [ofLine?_eq_some]
  constructor
  · exact fun h => h.imp fun hlines v hv w hw => hlines v w hv hw
  · exact fun h => h.imp fun hlines v w hv hw => hlines v hv w hw

theorem repeats_of_repeated? (h : repeated? [] (lines.filterMap ofLine?) = some name) :
    Repeats lines name := by
  obtain ⟨earlier, v, later, hsplit, hname, hnone, hbefore⟩ := exists_of_repeated? h
  obtain ⟨front, back, rfl, rfl, hback⟩ := List.filterMap_eq_append_iff.mp hsplit
  obtain ⟨skipped, line, rest, rfl, hskipped, hline, -⟩ := List.filterMap_eq_cons_iff.mp hback
  -- the lines between the last declaration before and the repeating one declare nothing
  have hsame : (front ++ skipped).filterMap ofLine? = front.filterMap ofLine? := by
    rw [List.filterMap_append, List.filterMap_eq_nil_iff.mpr hskipped, List.append_nil]
  refine ⟨front ++ skipped, line, rest, v, by rw [List.append_assoc], ?_,
    ofLine?_eq_some.mp hline, hname, ?_⟩
  · rw [distinct_iff, hsame]
    exact (repeated?_eq_none.mp hnone).2
  · rcases hbefore with hmem | ⟨w, hw, hwname⟩
    · cases hmem
    · obtain ⟨other, hother, hdeclares⟩ := List.mem_filterMap.mp hw
      exact ⟨other, List.mem_append_left _ hother, w, ofLine?_eq_some.mp hdeclares, hwname⟩

/-- What the lines of a text declare is read, if no name is declared twice. -/
theorem ofContent_eq_ok :
    ofContent content = .ok vs ↔
      Declarations (Text.lines content) vs ∧ Distinct (Text.lines content) := by
  rw [declarations_iff, distinct_iff, ofContent, declared]
  cases h : repeated? [] ((Text.lines content).filterMap ofLine?) with
  | none => simp [(repeated?_eq_none.mp h).2]
  | some name =>
      have hno : ¬ ((Text.lines content).filterMap ofLine?).Pairwise
          fun v w => v.name ≠ w.name := by
        intro hpairwise
        rw [repeated?_eq_none.mpr ⟨by simp, hpairwise⟩] at h
        cases h
      simp [hno]

/-- A text that declares a name twice is refused for the first name it repeats. -/
theorem repeats_of_ofContent_eq_error {e : TemplateError}
    (h : ofContent content = .error e) :
    ∃ name, Repeats (Text.lines content) name ∧
      e = { kind := .variableConflict, detail := name } := by
  rw [ofContent, declared] at h
  split at h
  · rename_i name hname
    cases h
    exact ⟨name, repeats_of_repeated? hname, rfl⟩
  · cases h

end Repeating

end Variable

namespace Filename

variable {filename : Text} {parts : Filename}

/-- A file name is a priority in digits, a category without dashes and a name; it may end. -/
def Names (filename : Text) (parts : Filename) : Prop :=
  ∃ digits,
    Text.Sheds suffix filename (digits ++ '-' :: (parts.category ++ '-' :: parts.name)) ∧
    digits ≠ [] ∧ (∀ c ∈ digits, c.isDigit = true) ∧ '-' ∉ parts.category ∧
    parts.priority = Nat.ofDigitChars 10 digits 0

/-- What stands in front of the first dash of a file name. -/
def beforeDash (filename : Text) : Text :=
  filename.takeWhile (· ≠ '-')

theorem beforeDash_eq {first rest : Text} (hfirst : '-' ∉ first)
    (h : Text.dropSuffix suffix filename = first ++ '-' :: rest) :
    beforeDash filename = first := by
  have hall : ∀ c ∈ first, decide (c ≠ '-') = true := by
    intro c hc
    simpa using fun heq : c = '-' => hfirst (heq ▸ hc)
  rcases Text.dropSuffix_eq_iff.mp h with hbase | ⟨hbase, -⟩
  · rw [beforeDash, hbase, List.append_assoc]
    exact Text.takeWhile_append hall (by simp)
  · rw [beforeDash, hbase]
    exact Text.takeWhile_append hall (by simp)

/-- A name with three parts is read as its priority, its category and its name. -/
theorem ofText_of_dropSuffix_eq {first category name : Text} (hfirst : '-' ∉ first)
    (hcategory : '-' ∉ category)
    (hshort : (beforeDash filename).length ≤ Text.digitLimit)
    (h : Text.dropSuffix suffix filename = first ++ '-' :: (category ++ '-' :: name)) :
    ofText filename =
      if first = [] ∨ ¬ ∀ c ∈ first, c.isDigit = true then
        .error (.template { kind := .invalidFilename, detail := "invalid priority" })
      else .ok { priority := Nat.ofDigitChars 10 first 0, category, name } := by
  obtain ⟨part, parts, hparts⟩ := List.exists_cons_of_ne_nil (Text.splitOn_ne_nil '-' name)
  have hname : Text.joinWith "-" (part :: parts) = name := by
    rw [← hparts]
    exact Text.joinWith_splitOn '-' name
  rw [beforeDash_eq hfirst h] at hshort
  rw [ofText, h, Text.splitOn_append_cons hfirst, Text.splitOn_append_cons hcategory, hparts]
  dsimp only
  rw [if_neg (show ¬ first.length > Text.digitLimit by omega), hname]
  have hsame : (first.isEmpty || !first.all Char.isDigit) = true ↔
      first = [] ∨ ¬ ∀ c ∈ first, c.isDigit = true := by
    rw [Bool.or_eq_true, List.isEmpty_iff, Bool.not_eq_true', Bool.eq_false_iff, Ne,
      List.all_eq_true]
  simp only [hsame]

/-- A name has three parts, or it is refused for not having them. -/
theorem ofText_cases (filename : Text) :
    (∃ first category name, '-' ∉ first ∧ '-' ∉ category ∧
        Text.dropSuffix suffix filename = first ++ '-' :: (category ++ '-' :: name)) ∨
      ofText filename =
        .error (.template { kind := .invalidFilename, detail := filename }) := by
  rw [ofText]
  split
  · rename_i first category part parts hsplit
    have hdash {part : Text}
        (h : part ∈ Text.splitOn '-' (Text.dropSuffix suffix filename)) : '-' ∉ part :=
      Text.notMem_of_mem_splitOn h
    rw [hsplit] at hdash
    refine Or.inl ⟨first, category, Text.joinWith "-" (part :: parts), hdash (by simp),
      hdash (by simp), ?_⟩
    calc Text.dropSuffix suffix filename
        = Text.joinWith "-" (first :: category :: part :: parts) := by
          rw [← hsplit]
          exact (Text.joinWith_splitOn '-' _).symm
      _ = first ++ "-" ++ (category ++ "-" ++ Text.joinWith "-" (part :: parts)) := by
          rw [Text.joinWith_cons (by simp), Text.joinWith_cons (by simp)]
      _ = first ++ '-' :: (category ++ '-' :: Text.joinWith "-" (part :: parts)) := by
          simp
  · exact Or.inr rfl

/-- A name is read as what it says. -/
theorem ofText_eq_ok (hshort : (beforeDash filename).length ≤ Text.digitLimit) :
    ofText filename = .ok parts ↔ Names filename parts := by
  constructor
  · intro h
    rcases ofText_cases filename with ⟨first, category, name, hfirst, hcategory, hbase⟩ | herr
    · rw [ofText_of_dropSuffix_eq hfirst hcategory hshort hbase] at h
      split at h
      · cases h
      · rename_i hdigits
        rw [not_or, not_not] at hdigits
        cases h
        exact ⟨first, Text.dropSuffix_eq_iff.mp hbase, hdigits.1, hdigits.2, hcategory, rfl⟩
    · rw [herr] at h
      cases h
  · rintro ⟨digits, hbase, hne, hdigits, hcategory, hpriority⟩
    have hdash : '-' ∉ digits := fun hmem => absurd (hdigits '-' hmem) (by decide)
    rw [ofText_of_dropSuffix_eq hdash hcategory hshort (Text.dropSuffix_eq_iff.mpr hbase),
      if_neg (not_or.mpr ⟨hne, not_not.mpr hdigits⟩), ← hpriority]

/-- A name that says nothing is refused. -/
theorem exists_of_ofText_eq_error (hshort : (beforeDash filename).length ≤ Text.digitLimit)
    {f : Failure} (h : ofText filename = .error f) :
    ∃ detail, f = .template { kind := .invalidFilename, detail } := by
  rcases ofText_cases filename with ⟨first, category, name, hfirst, hcategory, hbase⟩ | herr
  · rw [ofText_of_dropSuffix_eq hfirst hcategory hshort hbase] at h
    split at h
    · cases h
      exact ⟨_, rfl⟩
    · cases h
  · rw [herr] at h
    cases h
    exact ⟨_, rfl⟩

end Filename

end NoteTemplates
