import Mathlib.Data.Nat.Digits.Defs
import NoteTemplates.Proofs.Starters

/-!
# The grammar of file names

A file name says a priority in digits, a category without dashes and a name, parted by the
first two dashes; one ending at its end does not belong to the name. There is one way to part
a file name like this. It is read if there is one, as the number that the digits stand for,
the category and the name. Otherwise it is refused: for itself if it has less than two dashes,
and for its priority if it has two or more. What is made of a priority, a category and a name
is read as these again.
-/

namespace NoteTemplates
namespace Filename

variable {filename digits category name : Text}

/-- A file name with the digits of its priority, its category and its name. -/
structure Spells (filename digits category name : Text) : Prop where
  parted : Text.Sheds suffix filename (digits ++ '-' :: (category ++ '-' :: name))
  nonempty : digits ≠ []
  isDigit : ∀ c ∈ digits, c.isDigit = true
  dashless : '-' ∉ category

/-- The number that digits stand for, the last of them for ones. -/
def decimal (digits : Text) : Nat :=
  Nat.ofDigits 10 (digits.reverse.map fun c => c.toNat - '0'.toNat)

section Spelling

theorem Spells.dash_notMem (h : Spells filename digits category name) : '-' ∉ digits :=
  fun hmem => absurd (h.isDigit '-' hmem) (by decide)

/-- Digits are read as the number that they stand for. -/
theorem ofDigitChars_eq_decimal (digits : Text) :
    Nat.ofDigitChars 10 digits 0 = decimal digits := by
  have hfrom (n : Nat) : Nat.ofDigitChars 10 digits n =
      n * 10 ^ digits.length + decimal digits := by
    induction digits generalizing n with
    | nil => simp [decimal]
    | cons c digits ih =>
        rw [Nat.ofDigitChars_cons, ih, decimal, decimal, List.reverse_cons, List.map_append,
          Nat.ofDigits_append]
        simp
        ring
  simpa using hfrom 0

theorem names_iff {parts : Filename} :
    Names filename parts ↔
      ∃ digits, Spells filename digits parts.category parts.name ∧
        parts.priority = decimal digits := by
  constructor
  · rintro ⟨digits, hparted, hne, hdigits, hcategory, hpriority⟩
    exact ⟨digits, ⟨hparted, hne, hdigits, hcategory⟩,
      hpriority.trans (ofDigitChars_eq_decimal digits)⟩
  · rintro ⟨digits, h, hpriority⟩
    exact ⟨digits, h.parted, h.nonempty, h.isDigit, h.dashless,
      hpriority.trans (ofDigitChars_eq_decimal digits).symm⟩

/-- There is one way to part a file name. -/
theorem Spells.unique {digits' category' name' : Text}
    (h : Spells filename digits category name) (h' : Spells filename digits' category' name') :
    digits = digits' ∧ category = category' ∧ name = name' := by
  have hsame := (Text.dropSuffix_eq_iff.mpr h'.parted).symm.trans
    (Text.dropSuffix_eq_iff.mpr h.parted)
  obtain ⟨hdigits, hrest⟩ := Text.append_cons_inj h.dash_notMem h'.dash_notMem hsame
  exact ⟨hdigits, Text.append_cons_inj h.dashless h'.dashless hrest.symm⟩

end Spelling

section Refusing

/-- The ending of a file name holds no dash. -/
theorem count_dropSuffix (filename : Text) :
    (Text.dropSuffix suffix filename).count '-' = filename.count '-' := by
  have hsuffix : suffix.count '-' = 0 := by decide
  rcases Text.dropSuffix_eq_iff.mp (rfl : Text.dropSuffix suffix filename = _) with heq | ⟨heq, -⟩
  · conv_rhs => rw [heq, List.count_append, hsuffix, Nat.add_zero]
  · rw [← heq]

/-- A text with two dashes has three parts. -/
theorem exists_parts {s : Text} (h : 2 ≤ s.count '-') :
    ∃ first category name, '-' ∉ first ∧ '-' ∉ category ∧
      s = first ++ '-' :: (category ++ '-' :: name) := by
  have hcut {s : Text} (h : 1 ≤ s.count '-') :
      ∃ first rest, '-' ∉ first ∧ s = first ++ '-' :: rest ∧
        s.count '-' = rest.count '-' + 1 := by
    obtain ⟨first, rest, rfl, hfirst⟩ :=
      List.eq_append_cons_of_mem (List.one_le_count_iff.mp h)
    refine ⟨first, rest, hfirst, rfl, ?_⟩
    simp [List.count_eq_zero_of_not_mem hfirst]
  obtain ⟨first, rest, hfirst, rfl, hcount⟩ := hcut (Nat.le_of_succ_le h)
  obtain ⟨category, name, hcategory, rfl, -⟩ := hcut (s := rest) (by omega)
  exact ⟨first, category, name, hfirst, hcategory, rfl⟩

theorem two_le_count {first : Text}
    (h : Text.dropSuffix suffix filename = first ++ '-' :: (category ++ '-' :: name)) :
    2 ≤ filename.count '-' := by
  rw [← count_dropSuffix, h]
  simp only [List.count_append, List.count_cons_self]
  omega

/-- What a file name is refused for: for its priority, if it has one. -/
def complaint (filename : Text) : Text :=
  if filename.count '-' < 2 then filename else "invalid priority"

/-- A file name that spells nothing is refused. -/
theorem ofText_of_not_spells (hshort : (beforeDash filename).length ≤ Text.digitLimit)
    (hno : ¬ ∃ digits category name, Spells filename digits category name) :
    ofText filename =
      .error (.template { kind := .invalidFilename, detail := complaint filename }) := by
  by_cases hdashes : filename.count '-' < 2
  · rw [complaint, if_pos hdashes]
    rcases ofText_cases filename with ⟨first, category, name, -, -, hbase⟩ | herr
    · have hcount := two_le_count hbase
      omega
    · exact herr
  · rw [complaint, if_neg hdashes]
    have hcount : 2 ≤ (Text.dropSuffix suffix filename).count '-' := by
      rw [count_dropSuffix]
      omega
    obtain ⟨first, category, name, hfirst, hcategory, hbase⟩ := exists_parts hcount
    rw [ofText_of_dropSuffix_eq hfirst hcategory hshort hbase, if_pos]
    by_contra hdigits
    rw [not_or, not_not] at hdigits
    exact hno ⟨first, category, name,
      Text.dropSuffix_eq_iff.mp hbase, hdigits.1, hdigits.2, hcategory⟩

end Refusing

section Making

/-- The decimal notation of a priority stands in front of the first dash. -/
theorem beforeDash_assemble (priority : Nat) (category name : Text) :
    beforeDash (assemble priority category name) = Text.ofNat priority := by
  have hdash : '-' ∉ Text.ofNat priority := fun hmem =>
    absurd (Nat.isDigit_of_mem_toDigits (by decide) (by decide) hmem) (by decide)
  have hparts : Text.dropSuffix suffix (assemble priority category name) =
      Text.ofNat priority ++ '-' :: (category ++ '-' :: name) := by
    rw [assemble, Text.dropSuffix_append]
    simp [Text.ofInt]
  exact beforeDash_eq hdash hparts

end Making

/--
Which file names are read, as what, and why others are refused, for names with no more
characters in front of the first dash than a number may have digits. A name is read if it is
a priority in digits, a category without dashes and a name, as the number of the digits, the
category and the name; there is one way to part it so. Otherwise it is refused for itself, if
it has less than three parts, or for its priority.

What is made of a priority that may be read, a category without dashes and any name is read as
these.
-/
theorem reads_what_is_spelled :
    (∀ filename, (beforeDash filename).length ≤ Text.digitLimit →
      (∀ parts, ofText filename = .ok parts ↔
        ∃ digits, Spells filename digits parts.category parts.name ∧
          parts.priority = decimal digits) ∧
      (∀ digits category name digits' category' name',
        Spells filename digits category name → Spells filename digits' category' name' →
          digits = digits' ∧ category = category' ∧ name = name') ∧
      ∀ f, ofText filename = .error f ↔
        (¬ ∃ digits category name, Spells filename digits category name) ∧
          f = .template
            { kind := .invalidFilename
              detail := if filename.count '-' < 2 then filename else "invalid priority" }) ∧
    ∀ (priority : Nat) (category name : Text),
      (Text.ofNat priority).length ≤ Text.digitLimit → '-' ∉ category →
        ofText (assemble priority category name) = .ok ⟨priority, category, name⟩ := by
  refine ⟨fun filename hshort => ?_, fun priority category name hshort hcategory => ?_⟩
  · have hread (parts : Filename) : ofText filename = .ok parts ↔
        ∃ digits, Spells filename digits parts.category parts.name ∧
          parts.priority = decimal digits :=
      (ofText_eq_ok hshort).trans names_iff
    refine ⟨hread, fun _ _ _ _ _ _ => Spells.unique, fun f => ⟨fun hf => ?_, ?_⟩⟩
    · have hno : ¬ ∃ digits category name, Spells filename digits category name := by
        rintro ⟨digits, category, name, h⟩
        rw [(hread ⟨decimal digits, category, name⟩).mpr ⟨digits, h, rfl⟩] at hf
        cases hf
      rw [ofText_of_not_spells hshort hno] at hf
      cases hf
      exact ⟨hno, rfl⟩
    · rintro ⟨hno, rfl⟩
      exact ofText_of_not_spells hshort hno
  · rw [← beforeDash_assemble priority category name] at hshort
    exact ofText_assemble (Int.natCast_nonneg priority) hcategory hshort

/-- Zeros in front, an empty category, and a name with a dash and an ending of its own. -/
theorem reads_what_is_spelled_zeros_in_front :
    let filename : Text := "007--b-c.md.md"
    (beforeDash filename).length ≤ Text.digitLimit ∧
      Spells filename "007" "" "b-c.md" ∧
      ofText filename = .ok ⟨7, "", "b-c.md"⟩ ∧
      ofText (assemble 7 "" "b-c.md") = .ok ⟨7, "", "b-c.md"⟩ := by
  intro filename
  have hshort : (beforeDash filename).length ≤ Text.digitLimit := by decide
  have hspells : Spells filename "007" "" "b-c.md" :=
    ⟨Or.inl (by decide), by decide, List.all_eq_true.mp (by decide), by decide⟩
  obtain ⟨hread, hmade⟩ := reads_what_is_spelled
  obtain ⟨hok, -, -⟩ := hread filename hshort
  exact ⟨hshort, hspells, (hok _).mpr ⟨"007", hspells, by decide⟩,
    hmade 7 "" "b-c.md" (by decide) (by decide)⟩

end Filename
end NoteTemplates
