import NoteTemplates.Text.Decimal
import Mathlib.Data.List.TakeWhile

/-!
# Numerals

A numeral is a run of decimal digits, of any script. Whether a text is made of digits and
whether it can be read as a number are asked by two functions that do not agree: a digit need
not be decimal, and a numeral may have too many digits. Texts of digits that cannot be read are
called *false numerals* here. Reading a text of digits succeeds if and only if it is no false
numeral, and gives the number that its digits denote.
-/

namespace NoteTemplates
namespace Text

/-- Whether a character is a digit that a decimal numeral can hold. -/
def isDecimal (c : Char) : Bool :=
  (digitValue? c).isSome

/-- The number that a run of decimal digits denotes; there is none for any other text. -/
def numeral? (s : Text) : Option Nat :=
  if s ≠ [] ∧ s.all isDecimal then some (ofDigits (s.filterMap digitValue?)) else none

/-- A text that is made of digits but holds one that is not decimal, or too many. -/
structure IsFalseNumeral (s : Text) : Prop where
  nonempty : s ≠ []
  isDigit : ∀ c ∈ s, isDigit c = true
  faulty : (∃ c ∈ s, isDecimal c = false) ∨ digitLimit < s.length

instance (s : Text) : Decidable (IsFalseNumeral s) :=
  decidable_of_iff
    (s ≠ [] ∧ s.all Text.isDigit = true ∧
      ((s.any fun c => !isDecimal c) = true ∨ digitLimit < s.length)) <| by
    rw [List.all_eq_true, List.any_eq_true]
    simp only [Bool.not_eq_true']
    exact ⟨fun ⟨hne, hdigit, hfaulty⟩ => ⟨hne, hdigit, hfaulty⟩,
      fun ⟨hne, hdigit, hfaulty⟩ => ⟨hne, hdigit, hfaulty⟩⟩

section Digits

variable {c : Char} {s : Text} {n : Nat}

/-- The code points of digits, decimal or not, as ranges. -/
def digitRanges : List (Nat × Nat) :=
  zeroDigits.map (fun first => (first, first + 9)) ++ otherDigits

theorem inRanges_of_isDigit (h : isDigit c = true) : inRanges c.toNat digitRanges = true := by
  rw [inRanges, digitRanges, List.any_append, Bool.or_eq_true]
  rw [isDigit, Bool.or_eq_true] at h
  refine h.imp (fun hdecimal => ?_) id
  obtain ⟨first, hfirst⟩ : ∃ first, zeroDigits.find?
      (fun first => first ≤ c.toNat && c.toNat ≤ first + 9) = some first := by
    rw [digitValue?, Option.isSome_map] at hdecimal
    exact Option.isSome_iff_exists.mp hdecimal
  rw [List.any_map, List.any_eq_true]
  exact ⟨first, List.mem_of_find?_eq_some hfirst, by simpa using List.find?_some hfirst⟩

/-- A code point lies in no two ranges that are apart. -/
theorem not_inRanges_of_apart {ranges others : List (Nat × Nat)}
    (hapart : ∀ r ∈ ranges, ∀ o ∈ others, r.2 < o.1 ∨ o.2 < r.1)
    (h : inRanges n ranges = true) : inRanges n others = false := by
  rw [inRanges, List.any_eq_true] at h
  obtain ⟨r, hr, hin⟩ := h
  rw [inRanges, List.any_eq_false]
  intro o ho hother
  have hbetween := hapart r hr o ho
  simp only [Bool.and_eq_true, decide_eq_true_eq] at hin hother
  omega

theorem isNumberBlank_of_isDigit (h : isDigit c = true) : isNumberBlank c = false := by
  have hblank : isBlank c = false :=
    not_inRanges_of_apart (by decide) (inRanges_of_isDigit h)
  have hascii : isAsciiBlank c = false := by
    have hspace : c ≠ ' ' := by
      rintro rfl
      exact absurd h (by decide)
    have hcontrol : inRanges c.toNat [(9, 13)] = false :=
      not_inRanges_of_apart (by decide) (inRanges_of_isDigit h)
    simpa [isAsciiBlank, hspace, inRanges] using hcontrol
  rw [isNumberBlank, hascii, hblank, Bool.and_false, Bool.or_false]

theorem isDigit_of_isDecimal (h : isDecimal c = true) : isDigit c = true := by
  rw [isDigit, Bool.or_eq_true]
  exact Or.inl h

/-- The digits of ASCII have the values of their places behind the zero. -/
theorem digitValue?_of_ascii (h : c.isDigit = true) :
    digitValue? c = some (c.toNat - '0'.toNat) := by
  have hbounds : 48 ≤ c.toNat ∧ c.toNat ≤ 57 := by
    simpa [Char.isDigit, Char.le_def, UInt32.le_iff_toNat_le] using h
  have hzeros : zeroDigits = 48 :: zeroDigits.tail := rfl
  rw [digitValue?, hzeros, List.find?_cons_of_pos (by simpa using hbounds)]
  rfl

theorem numeral?_eq_some : numeral? s = some n ↔
    s ≠ [] ∧ (∀ c ∈ s, isDecimal c = true) ∧ ofDigits (s.filterMap digitValue?) = n := by
  rw [numeral?]
  split
  · rename_i h
    rw [Option.some.injEq]
    exact ⟨fun hn => ⟨h.1, List.all_eq_true.mp h.2, hn⟩, fun hn => hn.2.2⟩
  · rename_i h
    constructor
    · intro hnone
      cases hnone
    · rintro ⟨hne, hdecimal, -⟩
      exact absurd ⟨hne, List.all_eq_true.mpr hdecimal⟩ h

theorem numeral?_eq_none_of_not_isDigit (h : ∃ c ∈ s, isDigit c = false) : numeral? s = none := by
  obtain ⟨c, hc, hno⟩ := h
  rw [numeral?, if_neg]
  rintro ⟨-, hdecimal⟩
  rw [isDigit_of_isDecimal (List.all_eq_true.mp hdecimal c hc)] at hno
  cases hno

end Digits

section Reading

variable {c : Char} {s : Text} {n : Nat}

theorem readSign_of_isDigit (h : isDigit c = true) (s : Text) :
    readSign (c :: s) = (false, c :: s) := by
  have hminus : c ≠ '-' := by
    rintro rfl
    exact absurd h (by decide)
  have hplus : c ≠ '+' := by
    rintro rfl
    exact absurd h (by decide)
  unfold readSign
  split
  · rename_i heq
    exact absurd (List.cons.inj heq).1 hminus
  · rename_i heq
    exact absurd (List.cons.inj heq).1 hplus
  · rfl

/-- Digits are read up to the first that is not decimal, by induction on them. -/
theorem readDigits_of_isDigit (h : ∀ c ∈ s, isDigit c = true) (afterDigit : Bool) :
    readDigits afterDigit s =
      some ((s.takeWhile isDecimal).filterMap digitValue?, s.dropWhile isDecimal) := by
  induction s generalizing afterDigit with
  | nil => rfl
  | cons c s ih =>
      have hlow : c ≠ '_' := by
        rintro rfl
        exact absurd (h '_' (by simp)) (by decide)
      rw [readDigits, if_neg hlow]
      cases hvalue : digitValue? c with
      | none => simp [isDecimal, hvalue]
      | some d =>
          rw [ih fun d hd => h d (by simp [hd])]
          simp [isDecimal, hvalue]

/-- A text of digits is read as the decimal ones that it begins with, if nothing follows them. -/
theorem readInt_of_isDigit (hne : s ≠ []) (h : ∀ c ∈ s, isDigit c = true) :
    readInt s =
      if s.takeWhile isDecimal = [] then .error (.malformed s)
      else if digitLimit < (s.takeWhile isDecimal).length then
        .error (.tooLong (s.takeWhile isDecimal).length)
      else if s.dropWhile isDecimal = [] then .ok (ofDigits (s.filterMap digitValue?))
      else .error (.malformed s) := by
  have hsign : readSign (s.dropWhile isNumberBlank) = (false, s) := by
    cases s with
    | nil => exact absurd rfl hne
    | cons c s =>
        have hc := h c (by simp)
        rw [List.dropWhile_cons, isNumberBlank_of_isDigit hc]
        exact readSign_of_isDigit hc s
  have hvalues (t : Text) (ht : ∀ c ∈ t, isDecimal c = true) :
      (t.filterMap digitValue?).length = t.length := by
    rw [List.length_filterMap_eq_countP, List.countP_eq_length]
    exact ht
  have htake := hvalues (s.takeWhile isDecimal) fun _ => List.mem_takeWhile_imp
  have hblank : (s.dropWhile isDecimal).all isNumberBlank = true ↔ s.dropWhile isDecimal = [] := by
    cases hrest : s.dropWhile isDecimal with
    | nil => simp
    | cons d rest =>
        have hd : d ∈ s := by
          have hmem : d ∈ s.dropWhile isDecimal := by simp [hrest]
          exact (List.dropWhile_sublist _).mem hmem
        simp [isNumberBlank_of_isDigit (h d hd)]
  rw [readInt, hsign]
  dsimp only
  rw [readDigits_of_isDigit h]
  cases htaken : s.takeWhile isDecimal with
  | nil => rfl
  | cons d taken =>
      rw [htaken] at htake
      rw [if_neg (by simp), ← htake]
      cases hlist : (d :: taken).filterMap digitValue? with
      | nil =>
          rw [hlist] at htake
          cases htake
      | cons value values =>
          dsimp only
          rw [if_congr hblank rfl rfl]
          split
          · rfl
          · split
            · rename_i hrest
              have hwhole : s.takeWhile isDecimal = s := by
                have happend := List.takeWhile_append_dropWhile (p := isDecimal) (l := s)
                rwa [hrest, List.append_nil] at happend
              rw [← hlist, ← htaken, hwhole]
              rfl
            · rfl

/-- A numeral of not too many digits is read as the number that it denotes. -/
theorem readInt_of_numeral? (h : numeral? s = some n) (hlength : s.length ≤ digitLimit) :
    readInt s = .ok n := by
  obtain ⟨hne, hdecimal, rfl⟩ := numeral?_eq_some.mp h
  have htake : s.takeWhile isDecimal = s := List.takeWhile_eq_self_iff.mpr hdecimal
  have hdrop : s.dropWhile isDecimal = [] := List.dropWhile_eq_nil_iff.mpr hdecimal
  rw [readInt_of_isDigit hne fun c hc => isDigit_of_isDecimal (hdecimal c hc), htake, hdrop,
    if_neg hne, if_neg (by omega), if_pos rfl]

/-- What reading says of a false numeral. -/
inductive Refuses (s : Text) : NumberError → Prop
  | malformed (digit : ∃ c ∈ s, isDecimal c = false) : Refuses s (.malformed s)
  | tooLong {digits : Nat} (many : digitLimit < digits) (held : digits ≤ s.length) :
      Refuses s (.tooLong digits)

theorem IsFalseNumeral.refuses (h : IsFalseNumeral s) :
    ∃ e, readInt s = .error e ∧ Refuses s e := by
  have hpart : s.takeWhile isDecimal ++ s.dropWhile isDecimal = s :=
    List.takeWhile_append_dropWhile
  have hlength := congrArg List.length hpart
  rw [List.length_append] at hlength
  have hother (hdrop : s.dropWhile isDecimal ≠ []) : ∃ c ∈ s, isDecimal c = false := by
    by_contra hall
    refine hdrop (List.dropWhile_eq_nil_iff.mpr fun c hc => ?_)
    by_contra hno
    exact hall ⟨c, hc, by simpa using hno⟩
  rw [readInt_of_isDigit h.nonempty h.isDigit]
  split
  · rename_i htake
    refine ⟨_, rfl, .malformed (hother fun hdrop => h.nonempty ?_)⟩
    rw [← hpart, htake, hdrop, List.append_nil]
  · split
    · rename_i hmany
      exact ⟨_, rfl, .tooLong hmany (by omega)⟩
    · rename_i hfew
      split
      · rename_i hdrop
        rcases h.faulty with ⟨c, hc, hno⟩ | hlong
        · rw [List.dropWhile_eq_nil_iff.mp hdrop c hc] at hno
          cases hno
        · rw [hdrop, List.length_nil] at hlength
          omega
      · rename_i hdrop
        exact ⟨_, rfl, .malformed (hother hdrop)⟩

end Reading

section Writing

/-- The decimal notation of a number is a numeral that denotes it. -/
theorem numeral?_ofNat (n : Nat) : numeral? (ofNat n) = some n := by
  have hdigit : ∀ c ∈ ofNat n, c.isDigit = true := fun c hc =>
    Nat.isDigit_of_mem_toDigits (by decide) (by decide) hc
  have hvalues (s : Text) (hs : ∀ c ∈ s, c.isDigit = true) (start : Nat) :
      (s.filterMap digitValue?).foldl (fun m d => 10 * m + d) start =
        Nat.ofDigitChars 10 s start := by
    induction s generalizing start with
    | nil => rfl
    | cons c s ih =>
        rw [List.filterMap_cons, digitValue?_of_ascii (hs c (by simp)), Nat.ofDigitChars_cons]
        exact ih (fun d hd => hs d (by simp [hd])) _
  refine numeral?_eq_some.mpr ⟨Nat.toDigits_ne_nil, fun c hc => ?_, ?_⟩
  · rw [isDecimal, digitValue?_of_ascii (hdigit c hc)]
    rfl
  · rw [ofDigits, hvalues _ hdigit]
    exact Nat.ofDigitChars_ten_toDigits

end Writing

end Text
end NoteTemplates
