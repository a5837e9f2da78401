import NoteTemplates.Text.Utf8

/-!
# Reading what was written

The bytes of a text are read as that text. The first byte of a character announces how many
follow and in which range the next one is; the narrower ranges are those that the numbers of
characters leave, which are neither surrogates nor too large, and are not written with more
bytes than they need.
-/

namespace NoteTemplates
namespace Utf8

variable {position count low high n m : Nat} {following rest : Bytes} {s : Text}
  {c : Char}

section Reading

/-- A byte in the range is read with those behind it. -/
theorem readFollowing_cons {b : Nat} (hb : b < 256) (hlow : low ≤ b) (hhigh : b ≤ high)
    (h : readFollowing count 0x80 0xBF (n * 0x40 + (b - 0x80)) rest = .ok m) :
    readFollowing (count + 1) low high n (UInt8.ofNat b :: rest) = .ok m := by
  have hnat : (UInt8.ofNat b).toNat = b := by simpa using hb
  rw [readFollowing, hnat, h]
  simp [hlow, hhigh]

/-- Bytes that the character read last still covers are passed over. -/
theorem decodeFrom_skip (position : Nat) (following rest : Bytes) :
    decodeFrom position following.length (following ++ rest) =
      decodeFrom (position + following.length) 0 rest := by
  induction following generalizing position with
  | nil => rfl
  | cons b following ih =>
      rw [List.length_cons, List.cons_append, decodeFrom, ih]
      congr 1
      omega

/-- A character is read by its first byte and as many bytes as that announces. -/
theorem decodeFrom_cons {b : Nat} (hb : b < 256)
    (hlead : lead? b = some ⟨n, low, high, following.length⟩)
    (hread : readFollowing following.length low high n (following ++ rest) = .ok m)
    (hchar : Char.ofNat m = c) (hrest : ∀ position, decodeFrom position 0 rest = .ok s) :
    decodeFrom position 0 (UInt8.ofNat b :: (following ++ rest)) = .ok (c :: s) := by
  have hnat : (UInt8.ofNat b).toNat = b := by simpa using hb
  rw [decodeFrom, hnat, hlead]
  dsimp only
  rw [hread]
  dsimp only
  rw [decodeFrom_skip, hrest, hchar]

end Reading

section Leads

theorem lead?_two {bits : Nat} (hlow : 2 ≤ bits) (hhigh : bits < 0x20) :
    lead? (0xC0 + bits) = some ⟨bits, 0x80, 0xBF, 1⟩ := by
  rw [lead?, if_neg (by omega), if_neg (by omega), if_pos (by omega)]
  simp

/-- The first of three bytes, and what the next one can be. -/
theorem lead?_three (bits next : Nat) (hbits : bits < 0x10) (hnext : next < 0x40)
    (hshort : bits = 0 → 0x20 ≤ next) (hsurrogate : bits = 0xD → next < 0x20) :
    ∃ low high, lead? (0xE0 + bits) = some ⟨bits, low, high, 2⟩ ∧
      low ≤ 0x80 + next ∧ 0x80 + next ≤ high := by
  rw [lead?, if_neg (by omega), if_neg (by omega), if_neg (by omega)]
  by_cases hzero : bits = 0
  · subst hzero
    exact ⟨0xA0, 0xBF, rfl, by have := hshort rfl; omega, by omega⟩
  · rw [if_neg (by omega)]
    by_cases hd : bits = 0xD
    · subst hd
      exact ⟨0x80, 0x9F, rfl, by omega, by have := hsurrogate rfl; omega⟩
    · rw [if_neg (by omega), if_pos (by omega)]
      exact ⟨0x80, 0xBF, by simp, by omega, by omega⟩

/-- The first of four bytes, and what the next one can be. -/
theorem lead?_four (bits next : Nat) (hbits : bits < 5) (hnext : next < 0x40)
    (hshort : bits = 0 → 0x10 ≤ next) (hlarge : bits = 4 → next < 0x10) :
    ∃ low high, lead? (0xF0 + bits) = some ⟨bits, low, high, 3⟩ ∧
      low ≤ 0x80 + next ∧ 0x80 + next ≤ high := by
  rw [lead?, if_neg (by omega), if_neg (by omega), if_neg (by omega), if_neg (by omega),
    if_neg (by omega), if_neg (by omega)]
  by_cases hzero : bits = 0
  · subst hzero
    exact ⟨0x90, 0xBF, rfl, by have := hshort rfl; omega, by omega⟩
  · rw [if_neg (by omega)]
    by_cases hfour : bits = 4
    · subst hfour
      exact ⟨0x80, 0x8F, rfl, by omega, by have := hlarge rfl; omega⟩
    · rw [if_pos (by omega)]
      exact ⟨0x80, 0xBF, by simp, by omega, by omega⟩

end Leads

/-- The bytes of a character are read as that character. -/
theorem decodeFrom_encodeChar (c : Char)
    (hrest : ∀ position, decodeFrom position 0 rest = .ok s) :
    decodeFrom position 0 (encodeChar c ++ rest) = .ok (c :: s) := by
  have hvalid : c.toNat < 0xD800 ∨ 0xDFFF < c.toNat ∧ c.toNat < 0x110000 := c.valid
  have hchar : Char.ofNat c.toNat = c := Char.ofNat_toNat c
  obtain ⟨n, hn⟩ : ∃ n, c.toNat = n := ⟨_, rfl⟩
  rw [hn] at hvalid hchar
  by_cases hone : n < 0x80
  · have hbytes : encodeChar c = [UInt8.ofNat n] := by simp [encodeChar, hn, hone]
    have hlead : lead? n = some ⟨n, 0x80, 0xBF, ([] : Bytes).length⟩ := by simp [lead?, hone]
    rw [hbytes]
    exact decodeFrom_cons (by omega) hlead rfl hchar hrest
  by_cases htwo : n < 0x800
  · have hbytes : encodeChar c =
        [UInt8.ofNat (0xC0 + n / 0x40), UInt8.ofNat (0x80 + n % 0x40)] := by
      simp [encodeChar, hn, hone, htwo]
    have hlead : lead? (0xC0 + n / 0x40) = some ⟨n / 0x40, 0x80, 0xBF,
        [UInt8.ofNat (0x80 + n % 0x40)].length⟩ := lead?_two (by omega) (by omega)
    rw [hbytes]
    refine decodeFrom_cons (by omega) hlead ?_ hchar hrest
    refine readFollowing_cons (by omega) (by omega) (by omega) ?_
    exact congrArg Except.ok (by omega)
  by_cases hthree : n < 0x10000
  · have hbytes : encodeChar c =
        [UInt8.ofNat (0xE0 + n / 0x1000), UInt8.ofNat (0x80 + n / 0x40 % 0x40),
          UInt8.ofNat (0x80 + n % 0x40)] := by
      simp [encodeChar, hn, hone, htwo, hthree]
    obtain ⟨low, high, hlead, hlow, hhigh⟩ := lead?_three (n / 0x1000)
      (n / 0x40 % 0x40) (by omega) (by omega) (by omega) (by omega)
    have hlead' : lead? (0xE0 + n / 0x1000) = some ⟨n / 0x1000, low, high,
        [UInt8.ofNat (0x80 + n / 0x40 % 0x40), UInt8.ofNat (0x80 + n % 0x40)].length⟩ := hlead
    rw [hbytes]
    refine decodeFrom_cons (by omega) hlead' ?_ hchar hrest
    refine readFollowing_cons (by omega) hlow hhigh ?_
    refine readFollowing_cons (by omega) (by omega) (by omega) ?_
    exact congrArg Except.ok (by omega)
  · have hbytes : encodeChar c =
        [UInt8.ofNat (0xF0 + n / 0x40000), UInt8.ofNat (0x80 + n / 0x1000 % 0x40),
          UInt8.ofNat (0x80 + n / 0x40 % 0x40), UInt8.ofNat (0x80 + n % 0x40)] := by
      simp [encodeChar, hn, hone, htwo, hthree]
    obtain ⟨low, high, hlead, hlow, hhigh⟩ := lead?_four (n / 0x40000)
      (n / 0x1000 % 0x40) (by omega) (by omega) (by omega) (by omega)
    have hlead' : lead? (0xF0 + n / 0x40000) = some ⟨n / 0x40000, low, high,
        [UInt8.ofNat (0x80 + n / 0x1000 % 0x40), UInt8.ofNat (0x80 + n / 0x40 % 0x40),
          UInt8.ofNat (0x80 + n % 0x40)].length⟩ := hlead
    rw [hbytes]
    refine decodeFrom_cons (by omega) hlead' ?_ hchar hrest
    refine readFollowing_cons (by omega) hlow hhigh ?_
    refine readFollowing_cons (by omega) (by omega) (by omega) ?_
    refine readFollowing_cons (by omega) (by omega) (by omega) ?_
    exact congrArg Except.ok (by omega)

/-- The bytes of a text are read as that text. -/
theorem decode_encode (s : Text) : decode (encode s) = .ok s := by
  have hall : ∀ position, decodeFrom position 0 (encode s) = .ok s := by
    induction s with
    | nil => exact fun position => rfl
    | cons c s ih => exact fun position => decodeFrom_encodeChar c ih
  exact hall 0

end Utf8
end NoteTemplates
