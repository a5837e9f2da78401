import NoteTemplates.Disk
import NoteTemplates.Proofs.Walks

/-!
# Paths in text

Writing a path in text and walking the text are inverse to each other: the names that are
walked are the steps of the path, and reading the text gives the path back. From this follow
the two ways in which a text is taken apart on the disk: into the path of its directory and
the last name, and, for a path to a name, into the walk to the directory and one more look.
-/

namespace NoteTemplates

namespace Text

section Splitting

theorem splitOn_of_notMem {sep : Char} {s : Text} (h : sep ∉ s) :
    splitOn sep s = [s] := by
  induction s with
  | nil => rfl
  | cons c s ih =>
      have hc : c ≠ sep := fun hc => h (by simp [hc])
      have hs : sep ∉ s := fun hs => h (by simp [hs])
      simp [splitOn, hc, ih hs]

theorem splitOn_append_cons {sep : Char} {s : Text} (h : sep ∉ s) (t : Text) :
    splitOn sep (s ++ sep :: t) = s :: splitOn sep t := by
  induction s with
  | nil => simp [splitOn]
  | cons c s ih =>
      have hc : c ≠ sep := fun hc => h (by simp [hc])
      have hs : sep ∉ s := fun hs => h (by simp [hs])
      simp [splitOn, hc, ih hs]

theorem joinWith_cons {sep part : Text} {parts : List Text} (h : parts ≠ []) :
    joinWith sep (part :: parts) = part ++ sep ++ joinWith sep parts := by
  cases parts with
  | nil => exact absurd rfl h
  | cons => rfl

/-- Parts without the separator are found again after they were joined. -/
theorem splitOn_joinWith {sep : Char} {parts : List Text} (hne : parts ≠ [])
    (h : ∀ part ∈ parts, sep ∉ part) :
    splitOn sep (joinWith [sep] parts) = parts := by
  induction parts with
  | nil => exact absurd rfl hne
  | cons part parts ih =>
      have hpart : sep ∉ part := h part (by simp)
      by_cases hrest : parts = []
      · rw [hrest]
        exact splitOn_of_notMem hpart
      · have ih' := ih hrest fun q hq => h q (by simp [hq])
        rw [joinWith_cons hrest, List.append_assoc, List.singleton_append,
          splitOn_append_cons hpart, ih']

theorem joinWith_append_singleton {sep last : Text} {parts : List Text} (h : parts ≠ []) :
    joinWith sep (parts ++ [last]) = joinWith sep parts ++ sep ++ last := by
  induction parts with
  | nil => exact absurd rfl h
  | cons part parts ih =>
      by_cases hrest : parts = []
      · rw [hrest]
        rfl
      · rw [List.cons_append, joinWith_cons (by simp), ih hrest, joinWith_cons hrest]
        simp only [List.append_assoc]

end Splitting

theorem getLast?_append_of_ne_nil {t : Text} (h : t ≠ []) (s : Text) :
    (s ++ t).getLast? = t.getLast? := by
  rw [List.getLast?_append, List.getLast?_eq_some_getLast h]
  rfl

theorem byteLength_append (s t : Text) :
    byteLength (s ++ t) = byteLength s + byteLength t := by
  induction s with
  | nil => simp [byteLength]
  | cons c s ih =>
      have hcons (u : Text) : byteLength (c :: u) = c.utf8Size + byteLength u := rfl
      rw [List.cons_append, hcons, hcons, ih]
      omega

theorem byteLength_pos {s : Text} (h : s ≠ []) : 0 < byteLength s := by
  cases s with
  | nil => exact absurd rfl h
  | cons c s =>
      have hc := c.utf8Size_pos
      show 0 < c.utf8Size + byteLength s
      omega

end Text

namespace Path

section Steps

theorem Step.ne_nil (n : Step) : n.val ≠ [] := by
  have h := n.property
  simp only [isName, Bool.and_eq_true, decide_eq_true_eq] at h
  exact h.1.1

theorem Step.ne_dot (n : Step) : n.val ≠ "." := by
  have h := n.property
  simp only [isName, Bool.and_eq_true, decide_eq_true_eq] at h
  exact h.1.2

theorem Step.slash_notMem (n : Step) : '/' ∉ n.val := by
  have h := n.property
  simp only [isName, Bool.and_eq_true, decide_eq_true_eq] at h
  exact h.2

theorem Step.ofPart?_val (n : Step) : Step.ofPart? n.val = some n := by
  have h : isName n.val = true := n.property
  simp [Step.ofPart?, h]

theorem Step.isProper (n : Step) (h : n.val ≠ "..") : Walk.IsProper n.val :=
  ⟨n.ne_dot, h⟩

theorem slash_notMem_of_mem_parts {p : Path} {part : Text} (h : part ∈ p.parts) :
    '/' ∉ part := by
  obtain ⟨n, -, rfl⟩ := List.mem_map.mp h
  exact n.slash_notMem

theorem ne_nil_of_mem_parts {p : Path} {part : Text} (h : part ∈ p.parts) :
    part ≠ [] := by
  obtain ⟨n, -, rfl⟩ := List.mem_map.mp h
  exact n.ne_nil

theorem parts_eq_nil_iff {p : Path} : p.parts = [] ↔ p.steps = [] :=
  List.map_eq_nil_iff

@[simp] theorem anchor_parent (p : Path) : p.parent.anchor = p.anchor := rfl

/-- A path is its directory and its last step, unless it has no steps. -/
theorem steps_eq_nil_or (p : Path) :
    p.steps = [] ∨ ∃ n, p.steps = p.parent.steps ++ [n] := by
  rcases List.eq_nil_or_concat p.steps with h | ⟨steps, n, h⟩
  · exact Or.inl h
  · right
    refine ⟨n, ?_⟩
    show p.steps = p.steps.dropLast ++ [n]
    rw [h, List.concat_eq_append, List.dropLast_concat]

theorem parts_eq_of_steps_eq {p : Path} {n : Step} (h : p.steps = p.parent.steps ++ [n]) :
    p.parts = p.parent.parts ++ [n.val] :=
  (congrArg (List.map Subtype.val) h).trans List.map_append

theorem name_eq_of_steps_eq {p : Path} {n : Step} (h : p.steps = p.parent.steps ++ [n]) :
    p.name = n.val := by
  rw [name, parts_eq_of_steps_eq h, List.getLast?_concat]
  rfl

end Steps

section ToText

theorem toText_of_parts_ne_nil {p : Path} (h : p.parts ≠ []) :
    p.toText = Anchor.text p.anchor ++ Text.joinWith "/" p.parts := by
  obtain ⟨anchor, steps⟩ := p
  cases steps with
  | nil => exact absurd rfl h
  | cons n steps => cases anchor <;> rfl

/-- The text of a path without steps. -/
theorem toText_of_steps_eq_nil {p : Path} (h : p.steps = []) :
    p.toText = if p.anchor = .here then ['.'] else Anchor.text p.anchor := by
  obtain ⟨anchor, steps⟩ := p
  obtain rfl : steps = [] := h
  cases anchor <;> rfl

/-- The first character of joined parts is that of the first part. -/
theorem joinWith_eq_cons {p : Path} (h : p.parts ≠ []) :
    ∃ c s, Text.joinWith "/" p.parts = c :: s ∧ c ≠ '/' := by
  cases hparts : p.parts with
  | nil => exact absurd hparts h
  | cons part parts =>
      have hmem : part ∈ p.parts := by simp [hparts]
      have hne := ne_nil_of_mem_parts hmem
      have hslash := slash_notMem_of_mem_parts hmem
      cases part with
      | nil => exact absurd rfl hne
      | cons c part =>
          have hc : c ≠ '/' := fun hc => hslash (by simp [hc])
          cases parts with
          | nil => exact ⟨c, part, rfl, hc⟩
          | cons q parts => exact ⟨c, _, rfl, hc⟩

theorem toText_ne_nil (p : Path) : p.toText ≠ [] := by
  by_cases h : p.parts = []
  · rw [toText_of_steps_eq_nil (parts_eq_nil_iff.mp h)]
    cases p.anchor <;> decide
  · obtain ⟨c, s, hjoin, -⟩ := joinWith_eq_cons h
    rw [toText_of_parts_ne_nil h, hjoin]
    simp

/-- The text of a path with steps is that of its directory and the last step. -/
theorem toText_eq_of_steps_eq {p : Path} {n : Step} (h : p.steps = p.parent.steps ++ [n]) :
    p.toText =
      if p.parent.steps = [] then Anchor.text p.anchor ++ n.val
      else p.parent.toText ++ '/' :: n.val := by
  have hparts := parts_eq_of_steps_eq h
  have hne : p.parts ≠ [] := by
    rw [hparts]
    simp
  rw [toText_of_parts_ne_nil hne, hparts]
  split
  · rename_i hnil
    rw [parts_eq_nil_iff.mpr hnil]
    rfl
  · rename_i hsteps
    have hparent : p.parent.parts ≠ [] := fun hnil => hsteps (parts_eq_nil_iff.mp hnil)
    rw [Text.joinWith_append_singleton hparent, toText_of_parts_ne_nil hparent]
    simp

/-- A path with steps has at least as many bytes in text as its directory. -/
theorem byteLength_parent_le {p : Path} {n : Step} (h : p.steps = p.parent.steps ++ [n]) :
    Text.byteLength p.parent.toText ≤ Text.byteLength p.toText := by
  rw [toText_eq_of_steps_eq h]
  split
  · rename_i hnil
    have hn : 0 < Text.byteLength n.val := Text.byteLength_pos n.ne_nil
    rw [toText_of_steps_eq_nil hnil, Text.byteLength_append, anchor_parent]
    cases p.anchor with
    | here =>
        have hdot : Text.byteLength ['.'] = 1 := by decide
        simp only [if_true, hdot]
        omega
    | root => exact Nat.le_add_right _ _
    | doubleRoot => exact Nat.le_add_right _ _
  · rw [Text.byteLength_append]
    exact Nat.le_add_right _ _

end ToText

section Walking

/-- The place where the walk of a path begins. -/
def origin (p : Path) (base : Place) : Place :=
  match p.anchor with
  | .here => base
  | .root => []
  | .doubleRoot => []

@[simp] theorem origin_parent (p : Path) (base : Place) :
    p.parent.origin base = p.origin base := rfl

theorem start_toText (p : Path) (base : Place) :
    Walk.start base p.toText = p.origin base := by
  by_cases h : p.parts = []
  · obtain ⟨anchor, steps⟩ := p
    obtain rfl : steps = [] := parts_eq_nil_iff.mp h
    cases anchor <;> rfl
  · obtain ⟨c, s, hjoin, hc⟩ := joinWith_eq_cons h
    rw [toText_of_parts_ne_nil h, hjoin]
    unfold origin
    cases p.anchor with
    | here =>
        show Walk.start base (c :: s) = base
        unfold Walk.start
        split
        · rename_i heq
          exact absurd (List.cons.inj heq).1 hc
        · rfl
    | root => rfl
    | doubleRoot => rfl

theorem filter_parts (p : Path) :
    (p.parts.filter fun part => !part.isEmpty) = p.parts := by
  rw [List.filter_eq_self]
  intro part hmem
  have hne := ne_nil_of_mem_parts hmem
  cases part with
  | nil => exact absurd rfl hne
  | cons => rfl

theorem splitOn_joinWith_parts {p : Path} (h : p.parts ≠ []) :
    Text.splitOn '/' (Text.joinWith "/" p.parts) = p.parts :=
  Text.splitOn_joinWith h fun _ => slash_notMem_of_mem_parts

theorem getLast?_joinWith_parts {p : Path} {n : Step}
    (h : p.steps = p.parent.steps ++ [n]) :
    (Text.joinWith "/" p.parts).getLast? = n.val.getLast? := by
  have hn : n.val ≠ [] := n.ne_nil
  rw [parts_eq_of_steps_eq h]
  by_cases hnil : p.parent.parts = []
  · rw [hnil]
    rfl
  · rw [Text.joinWith_append_singleton hnil, Text.getLast?_append_of_ne_nil hn]

theorem getLast?_toText_ne_slash {p : Path} (h : p.parts ≠ []) :
    p.toText.getLast? ≠ some '/' := by
  rcases p.steps_eq_nil_or with hnil | ⟨n, hsteps⟩
  · exact absurd (parts_eq_nil_iff.mpr hnil) h
  · obtain ⟨c, s, hjoin, -⟩ := joinWith_eq_cons h
    have hlast : (Text.joinWith "/" p.parts).getLast? = n.val.getLast? :=
      getLast?_joinWith_parts hsteps
    have hne : Text.joinWith "/" p.parts ≠ [] := by
      rw [hjoin]
      simp
    rw [toText_of_parts_ne_nil h, Text.getLast?_append_of_ne_nil hne, hlast]
    intro hslash
    exact n.slash_notMem (List.mem_of_getLast? hslash)

/-- The names that the text of a path with steps is walked by are its steps. -/
theorem names_toText {p : Path} (h : p.parts ≠ []) :
    Walk.names p.toText = p.parts := by
  have hlast := getLast?_toText_ne_slash h
  have hsplit : ((Text.splitOn '/' p.toText).filter fun part => !part.isEmpty) = p.parts := by
    rw [toText_of_parts_ne_nil h]
    cases p.anchor with
    | here =>
        show (Text.splitOn '/' (Text.joinWith "/" p.parts)).filter _ = _
        rw [splitOn_joinWith_parts h, filter_parts]
    | root =>
        show (Text.splitOn '/' ('/' :: Text.joinWith "/" p.parts)).filter _ = _
        simp only [Text.splitOn, if_true, List.filter_cons]
        rw [splitOn_joinWith_parts h, filter_parts]
        rfl
    | doubleRoot =>
        show (Text.splitOn '/' ('/' :: '/' :: Text.joinWith "/" p.parts)).filter _ = _
        simp only [Text.splitOn, if_true, List.filter_cons]
        rw [splitOn_joinWith_parts h, filter_parts]
        rfl
  simp only [Walk.names, hsplit, hlast, if_false]

theorem names_toText_of_steps_eq_nil {p : Path} (h : p.steps = []) :
    Walk.names p.toText = [['.']] := by
  obtain ⟨anchor, steps⟩ := p
  obtain rfl : steps = [] := h
  cases anchor <;> rfl

/-- Walking the text of a path is walking its steps from its origin. -/
theorem find_toText (s : Store) (base : Place) (follow : Bool) (p : Path) :
    s.find base follow p.toText =
      if Text.byteLength p.toText ≥ Walk.pathLimit then .error .nameTooLong
      else Walk.along s follow Walk.linkLimit (p.origin base) p.parts := by
  have hne : p.toText.isEmpty = false := by
    simpa using p.toText_ne_nil
  simp only [Store.find, hne, Bool.false_eq_true, if_false]
  split
  · rfl
  · rw [start_toText]
    by_cases h : p.parts = []
    · rw [names_toText_of_steps_eq_nil (parts_eq_nil_iff.mp h), h]
      exact Walk.along_dot s follow Walk.linkLimit (p.origin base) []
    · rw [names_toText h]

/--
The walk of a path with steps is the walk of its directory and one more look; if the
directory cannot be reached or the text is too long, it is refused.
-/
theorem find_last (s : Store) (base : Place) {p : Path} {n : Step}
    (h : p.steps = p.parent.steps ++ [n]) :
    (∃ directory left,
      s.find base true p.parent.toText = .ok (.found directory .directory) ∧
      ∀ follow, s.find base follow p.toText =
        Walk.along s follow left directory [n.val]) ∨
    ((Text.byteLength p.toText ≥ Walk.pathLimit ∨
        ∀ directory,
          s.find base true p.parent.toText ≠ .ok (.found directory .directory)) ∧
      ∀ follow, ∃ errno, s.find base follow p.toText = .error errno) := by
  have hle := byteLength_parent_le h
  by_cases hlong : Text.byteLength p.toText ≥ Walk.pathLimit
  · right
    refine ⟨Or.inl hlong, fun follow => ⟨.nameTooLong, ?_⟩⟩
    rw [find_toText, if_pos hlong]
  · have hshort : ¬ Text.byteLength p.parent.toText ≥ Walk.pathLimit := by omega
    have hp (follow : Bool) : s.find base follow p.toText =
        Walk.along s follow Walk.linkLimit (p.origin base) (p.parent.parts ++ [n.val]) := by
      rw [find_toText, if_neg hlong, parts_eq_of_steps_eq h]
    have hparent : s.find base true p.parent.toText =
        Walk.along s true Walk.linkLimit (p.origin base) p.parent.parts := by
      rw [find_toText, if_neg hshort, origin_parent]
    rcases Walk.along_append s Walk.linkLimit (p.origin base) p.parent.parts with
      ⟨directory, left, hdir, hrest⟩ | ⟨hdir, hrest⟩
    · left
      refine ⟨directory, left, hparent.trans hdir, fun follow => ?_⟩
      rw [hp, hrest]
    · right
      refine ⟨Or.inr fun directory => ?_, fun follow => ?_⟩
      · rw [hparent]
        exact hdir directory
      · rw [hp]
        exact hrest follow n.val []

end Walking

section Reading

theorem filterMap_parts (p : Path) :
    p.parts.filterMap Step.ofPart? = p.steps := by
  simp only [parts, List.filterMap_map]
  have hval : (Step.ofPart? ∘ fun n : Step => n.val) = some := by
    funext n
    exact Step.ofPart?_val n
  rw [hval, List.filterMap_some]

/-- The text of a path stands for the path. -/
theorem ofText_toText (p : Path) : ofText p.toText = p := by
  by_cases h : p.parts = []
  · obtain ⟨anchor, steps⟩ := p
    obtain rfl : steps = [] := parts_eq_nil_iff.mp h
    cases anchor <;> rfl
  · obtain ⟨c, s, hjoin, hc⟩ := joinWith_eq_cons h
    have hempty : Step.ofPart? [] = none := rfl
    have hsplit := splitOn_joinWith_parts h
    obtain ⟨anchor, steps⟩ := p
    rw [toText_of_parts_ne_nil h]
    have hsteps := filterMap_parts ⟨anchor, steps⟩
    rw [← hsplit] at hsteps
    cases anchor with
    | here =>
        have hanchor : anchorOf (Text.joinWith "/" (parts ⟨.here, steps⟩)) = .here := by
          rw [hjoin]
          unfold anchorOf
          split <;> simp_all
        show ofText (Text.joinWith "/" (parts ⟨.here, steps⟩)) = _
        rw [ofText, hanchor, hsteps]
    | root =>
        have hanchor : anchorOf ('/' :: Text.joinWith "/" (parts ⟨.root, steps⟩)) = .root := by
          rw [hjoin]
          unfold anchorOf
          split <;> simp_all
        show ofText ('/' :: Text.joinWith "/" (parts ⟨.root, steps⟩)) = _
        rw [ofText, hanchor]
        simp only [Text.splitOn, if_true, List.filterMap_cons, hempty, hsteps]
    | doubleRoot =>
        have hanchor :
            anchorOf ('/' :: '/' :: Text.joinWith "/" (parts ⟨.doubleRoot, steps⟩)) =
              .doubleRoot := by
          rw [hjoin]
          unfold anchorOf
          split
          · simp_all
          · rfl
          · rename_i hno heq
            exact absurd (List.cons.inj heq).2.symm (hno _)
          · simp_all
        show ofText ('/' :: '/' :: Text.joinWith "/" (parts ⟨.doubleRoot, steps⟩)) = _
        rw [ofText, hanchor]
        simp only [Text.splitOn, if_true, List.filterMap_cons, hempty, hsteps]

end Reading

section Parting

theorem dropSlashes_of_getLast?_ne {s : Text} (h : s.getLast? ≠ some '/') :
    dropSlashes s = s := by
  unfold dropSlashes
  cases hs : s.reverse with
  | nil => simpa using hs.symm
  | cons c rest =>
      have hc : c ≠ '/' := by
        rintro rfl
        rw [List.getLast?_eq_head?_reverse, hs] at h
        exact h rfl
      have hdrop : (c :: rest).dropWhile (fun c => decide (c = '/')) = c :: rest := by
        simp [hc]
      rw [hdrop, ← hs, List.reverse_reverse]

theorem dropSlashes_append_slash (s : Text) :
    dropSlashes (s ++ ['/']) = dropSlashes s := by
  simp [dropSlashes]

/-- A text is parted at its last slash. -/
theorem splitLast_append {front last : Text} (hlast : '/' ∉ last)
    (hfront : front = [] ∨ front.getLast? = some '/') :
    Disk.splitLast (front ++ last) =
      (if front.all (· = '/') then front else dropSlashes front, last) := by
  have hall : ∀ c ∈ last.reverse, decide (c ≠ '/') = true := by
    intro c hc
    have hmem : c ∈ last := by simpa using hc
    have hne : c ≠ '/' := fun h => hlast (h ▸ hmem)
    simpa using hne
  have hhead : front.reverse = [] ∨ ∃ rest, front.reverse = '/' :: rest := by
    rcases hfront with h | h
    · exact Or.inl (by simp [h])
    · right
      rw [List.getLast?_eq_head?_reverse] at h
      cases hr : front.reverse with
      | nil => simp [hr] at h
      | cons c rest =>
          rw [hr] at h
          exact ⟨rest, by rw [Option.some.inj h]⟩
  have htake : front.reverse.takeWhile (fun c => decide (c ≠ '/')) = [] := by
    rcases hhead with h | ⟨rest, h⟩ <;> simp [h]
  have hdrop : front.reverse.dropWhile (fun c => decide (c ≠ '/')) = front.reverse := by
    rcases hhead with h | ⟨rest, h⟩ <;> simp [h]
  simp only [Disk.splitLast, List.reverse_append, List.takeWhile_append_of_pos hall,
    List.dropWhile_append_of_pos hall, htake, hdrop, List.append_nil, List.reverse_reverse]

/-- A path with steps is parted into the text of its directory and its last step. -/
theorem splitPath_toText {p : Path} {n : Step} (h : p.steps = p.parent.steps ++ [n]) :
    Disk.splitPath p.toText =
      (if p.parent.steps = [] then Anchor.text p.anchor else p.parent.toText, n.val) := by
  have hlast : Disk.splitLast p.toText =
      (if p.parent.steps = [] then Anchor.text p.anchor else p.parent.toText, n.val) := by
    rw [toText_eq_of_steps_eq h]
    split
    · have hall : (Anchor.text p.anchor).all (· = '/') = true := by
        cases p.anchor <;> rfl
      have hend : Anchor.text p.anchor = [] ∨
          (Anchor.text p.anchor).getLast? = some '/' := by
        cases p.anchor with
        | here => exact Or.inl rfl
        | root => exact Or.inr rfl
        | doubleRoot => exact Or.inr rfl
      rw [splitLast_append n.slash_notMem hend, if_pos hall]
    · rename_i hsteps
      have hparts : p.parent.parts ≠ [] := fun hnil => hsteps (parts_eq_nil_iff.mp hnil)
      have hslash := getLast?_toText_ne_slash hparts
      have hend : (p.parent.toText ++ ['/']).getLast? = some '/' := by simp
      have hall : (p.parent.toText ++ ['/']).all (· = '/') = false := by
        cases htext : p.parent.toText.getLast? with
        | none => exact absurd (List.getLast?_eq_none_iff.mp htext) p.parent.toText_ne_nil
        | some c =>
            have hc : c ≠ '/' := fun hc => hslash (by rw [htext, hc])
            rw [List.all_eq_false]
            exact ⟨c, List.mem_append_left _ (List.mem_of_getLast? htext), by simpa using hc⟩
      have hcons : p.parent.toText ++ '/' :: n.val =
          (p.parent.toText ++ ['/']) ++ n.val := by simp
      rw [hcons, splitLast_append n.slash_notMem (Or.inr hend), hall]
      simp only [Bool.false_eq_true, if_false, dropSlashes_append_slash,
        dropSlashes_of_getLast?_ne hslash]
  rw [Disk.splitPath, hlast]
  cases hn : n.val with
  | nil => exact absurd hn n.ne_nil
  | cons => rfl

/-- A path without steps has no directory or no name of its own. -/
theorem splitPath_toText_of_steps_eq_nil {p : Path} (h : p.steps = []) :
    (Disk.splitPath p.toText).1.isEmpty || (Disk.splitPath p.toText).2.isEmpty := by
  obtain ⟨anchor, steps⟩ := p
  obtain rfl : steps = [] := h
  cases anchor <;> decide

/-- The text of a path has no slashes at its end to take off. -/
theorem dropSlashes_toText (p : Path) :
    (if p.toText.all (· = '/') then p.toText else dropSlashes p.toText) = p.toText := by
  split
  · rfl
  · by_cases h : p.parts = []
    · rename_i hall
      rw [toText_of_steps_eq_nil (parts_eq_nil_iff.mp h)] at hall ⊢
      cases hanchor : p.anchor with
      | here => rfl
      | root => simp [hanchor, Anchor.text] at hall
      | doubleRoot => simp [hanchor, Anchor.text] at hall
    · exact dropSlashes_of_getLast?_ne (getLast?_toText_ne_slash h)

end Parting

section Inside

/-- A path and one more step. -/
def snoc (p : Path) (n : Step) : Path :=
  { p with steps := p.steps ++ [n] }

@[simp] theorem parent_snoc (p : Path) (n : Step) : (p.snoc n).parent = p := by
  simp [snoc, parent]

theorem steps_snoc (p : Path) (n : Step) :
    (p.snoc n).steps = (p.snoc n).parent.steps ++ [n] := by
  rw [parent_snoc]
  rfl

@[simp] theorem anchor_snoc (p : Path) (n : Step) : (p.snoc n).anchor = p.anchor := rfl

@[simp] theorem origin_snoc (p : Path) (n : Step) (base : Place) :
    (p.snoc n).origin base = p.origin base := rfl

theorem parts_snoc (p : Path) (n : Step) : (p.snoc n).parts = p.parts ++ [n.val] := by
  rw [parts_eq_of_steps_eq (steps_snoc p n), parent_snoc]

theorem inside_eq_toText_snoc {p : Path} (n : Step) (h : p.steps ≠ [] ∨ p.anchor ≠ .here) :
    Disk.inside p.toText n.val = (p.snoc n).toText := by
  have hempty : p.toText.isEmpty = false := by simpa using p.toText_ne_nil
  rw [toText_eq_of_steps_eq (steps_snoc p n), parent_snoc, anchor_snoc]
  by_cases hsteps : p.steps = []
  · have hanchor : p.anchor ≠ .here := h.resolve_left (fun hne => hne hsteps)
    have htext : p.toText = Anchor.text p.anchor := by
      rw [toText_of_steps_eq_nil hsteps, if_neg hanchor]
    have hslash : (Anchor.text p.anchor).getLast? = some '/' := by
      cases hp : p.anchor with
      | here => exact absurd hp hanchor
      | root => rfl
      | doubleRoot => rfl
    rw [if_pos hsteps, Disk.inside, htext, hslash]
    simp
  · have hparts : p.parts ≠ [] := fun hnil => hsteps (parts_eq_nil_iff.mp hnil)
    have hslash := getLast?_toText_ne_slash hparts
    rw [if_neg hsteps, Disk.inside]
    simp [hempty, hslash]

/-- Walking a name in the text of a directory is walking the steps of the directory and the name. -/
theorem find_inside (s : Store) (base : Place) (follow : Bool) (p : Path) (n : Step) :
    s.find base follow (Disk.inside p.toText n.val) =
      if Text.byteLength (Disk.inside p.toText n.val) ≥ Walk.pathLimit then
        .error .nameTooLong
      else Walk.along s follow Walk.linkLimit (p.origin base) (p.parts ++ [n.val]) := by
  by_cases h : p.steps ≠ [] ∨ p.anchor ≠ .here
  · rw [inside_eq_toText_snoc n h, find_toText, parts_snoc, origin_snoc]
  · obtain ⟨anchor, steps⟩ := p
    obtain ⟨rfl, rfl⟩ : steps = [] ∧ anchor = .here := by simpa using h
    have htext : Disk.inside (toText ⟨.here, []⟩) n.val = '.' :: '/' :: n.val := rfl
    have hlast : ('.' :: '/' :: n.val).getLast? ≠ some '/' := by
      have hn : n.val ≠ [] := n.ne_nil
      rw [show '.' :: '/' :: n.val = ['.', '/'] ++ n.val from rfl,
        Text.getLast?_append_of_ne_nil hn]
      exact fun hslash => n.slash_notMem (List.mem_of_getLast? hslash)
    have hne : n.val.isEmpty = false := by simpa using n.ne_nil
    have hsplit : ((Text.splitOn '/' ('.' :: '/' :: n.val)).filter fun part =>
        !part.isEmpty) = [['.'], n.val] := by
      simp [Text.splitOn, Text.splitOn_of_notMem n.slash_notMem, hne]
    have hnames : Walk.names ('.' :: '/' :: n.val) = [['.'], n.val] := by
      simp only [Walk.names, hsplit, hlast, if_false]
    rw [htext, Store.find, hnames]
    simp only [List.isEmpty_cons, Bool.false_eq_true, if_false]
    split
    · rfl
    · exact Walk.along_dot s follow Walk.linkLimit base [n.val]

end Inside

end Path
end NoteTemplates
