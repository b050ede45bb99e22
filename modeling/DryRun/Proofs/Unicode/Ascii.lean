import DryRun.Unicode.Identifier

/-!
# ASCII among the classes

Letters and digits of ASCII are of the classes of their names, and what may start a name is no
digit.
-/

namespace DryRun.Unicode

theorem toNat_bounds_of_isAlphanum {c : Char} (h : c.isAlphanum = true) :
    0x30 ≤ c.toNat ∧ c.toNat ≤ 0x7A := by
  delta Char.isAlphanum Char.isAlpha Char.isUpper Char.isLower Char.isDigit at h
  simp only [Bool.or_eq_true, Bool.and_eq_true, decide_eq_true_eq, UInt32.le_iff_toNat_le,
    ge_iff_le] at h
  have hc : c.toNat = c.val.toNat := rfl
  have hA : 'A'.val.toNat = 65 := rfl
  have hZ : 'Z'.val.toNat = 90 := rfl
  have ha : 'a'.val.toNat = 97 := rfl
  have hz : 'z'.val.toNat = 122 := rfl
  have h0 : '0'.val.toNat = 48 := rfl
  have h9 : '9'.val.toNat = 57 := rfl
  omega

theorem toNat_lt_of_isAlphanum {c : Char} (h : c.isAlphanum = true) : c.toNat < 0x80 :=
  Nat.lt_of_le_of_lt (toNat_bounds_of_isAlphanum h).2 (by decide)

theorem isAlphanum_of_isAlpha {c : Char} (h : c.isAlpha = true) : c.isAlphanum = true := by
  rw [Char.isAlphanum, h, Bool.true_or]

theorem isAlphanum_of_isDigit {c : Char} (h : c.isDigit = true) : c.isAlphanum = true := by
  rw [Char.isAlphanum, h, Bool.or_true]

theorem isAlphanumeric_of_isAlphanum {c : Char} (h : c.isAlphanum = true) :
    isAlphanumeric c = true := by
  rw [isAlphanumeric, if_pos (toNat_lt_of_isAlphanum h), h]

theorem isAlphabetic_of_isAlpha {c : Char} (h : c.isAlpha = true) : isAlphabetic c = true := by
  rw [isAlphabetic, if_pos (toNat_lt_of_isAlphanum (isAlphanum_of_isAlpha h)), h]

theorem isDigit_of_isDigit {c : Char} (h : c.isDigit = true) : Unicode.isDigit c = true := by
  rw [isDigit, if_pos (toNat_lt_of_isAlphanum (isAlphanum_of_isDigit h)), h]

/-- A table that begins behind ASCII holds none of its characters. -/
theorem covers_eq_false_of_lt {ranges : Ranges}
    (hranges : (ranges.all fun range => 0x80 ≤ range.1) = true) {c : Char} (hc : c.toNat < 0x80) :
    ranges.covers c = false := by
  unfold Ranges.covers
  rw [List.any_eq_false]
  intro range hrange
  have hfirst := of_decide_eq_true (List.all_eq_true.1 hranges range hrange)
  simp
  omega

theorem isBefore16_of_lt {c : Char} (hc : c.toNat < 0x80) : isBefore16 c = true := by
  unfold isBefore16 isBefore17
  rw [covers_eq_false_of_lt (by decide) hc, covers_eq_false_of_lt (by decide) hc]
  rfl

theorem beginsIdentifier_of_isAlpha {c : Char} (h : c.isAlpha = true) :
    beginsIdentifier c = true := by
  have hc := toNat_lt_of_isAlphanum (isAlphanum_of_isAlpha h)
  unfold beginsIdentifier isLetter
  rw [isAlphabetic_of_isAlpha h, isBefore16_of_lt hc,
    covers_eq_false_of_lt (by decide +kernel) hc]
  rfl

/-! ## What starts a name -/

theorem not_isDigit_of_isAlpha {c : Char} (h : c.isAlpha = true) : ¬ c.isDigit = true := by
  intro hdigit
  delta Char.isAlpha Char.isUpper Char.isLower at h
  delta Char.isDigit at hdigit
  simp only [Bool.or_eq_true, Bool.and_eq_true, decide_eq_true_eq, UInt32.le_iff_toNat_le,
    ge_iff_le] at h hdigit
  have hA : 'A'.val.toNat = 65 := rfl
  have ha : 'a'.val.toNat = 97 := rfl
  have h9 : '9'.val.toNat = 57 := rfl
  omega

theorem isAlpha_or_eq_of_isNameStart {c : Char} (h : isNameStart c = true) :
    c.isAlpha = true ∨ c = '_' := by
  rwa [isNameStart, Bool.or_eq_true, beq_iff_eq] at h

theorem ne_of_isNameStart {first c : Char} (hfirst : isNameStart first = true)
    (hc : isNameStart c = false) : first ≠ c := by
  rintro rfl
  rw [hfirst] at hc
  cases hc

theorem isWord_of_isNameStart {c : Char} (h : isNameStart c = true) : isWord c = true := by
  rcases isAlpha_or_eq_of_isNameStart h with hletter | rfl
  · have halphanum := isAlphanum_of_isAlpha hletter
    rw [isWord, if_pos (toNat_lt_of_isAlphanum halphanum), halphanum, Bool.true_or]
  · decide

theorem isWord_of_isAsciiLetter {c : Char} (h : isAsciiLetter c = true) : isWord c = true := by
  refine isWord_of_isNameStart ?_
  unfold isAsciiLetter at h
  rw [isNameStart, h, Bool.true_or]

theorem isDigit_eq_false_of_isNameStart {c : Char} (h : isNameStart c = true) :
    isDigit c = false := by
  rcases isAlpha_or_eq_of_isNameStart h with hletter | rfl
  · rw [isDigit, if_pos (toNat_lt_of_isAlphanum (isAlphanum_of_isAlpha hletter)),
      Bool.eq_false_iff]
    exact not_isDigit_of_isAlpha hletter
  · decide

end DryRun.Unicode
