import DryRun.Proofs.Number.Digits
import DryRun.Proofs.Text.Margins

/-!
# Texts of floats

What is read as a float is written without blanks, so it has no margins to lose.
-/

namespace DryRun

open Unicode

/-- The characters of decimal numbers. -/
def InDecimal (c : Char) : Prop := c.isDigit = true ∨ c ∈ ".eE+-".toList

/-- What holds of the digits and of the marks holds of all characters of decimal numbers. -/
theorem forall_inDecimal {p : Char → Prop} [DecidablePred p]
    (hdigits : ("0123456789".toList.all fun c => p c) = true)
    (hmarks : (".eE+-".toList.all fun c => p c) = true) {c : Char} (h : InDecimal c) : p c := by
  rcases h with hdigit | hmark
  · exact forall_isDigit hdigits hdigit
  · exact of_decide_eq_true (List.all_eq_true.1 hmarks c hmark)

theorem isDigit_of_readNatural? {digits : Text} {n : Nat} (h : readNatural? digits = some n)
    {c : Char} (hc : c ∈ digits) : c.isDigit = true := by
  unfold readNatural? at h
  split at h
  · rename_i hdigits
    rw [Bool.and_eq_true] at hdigits
    exact List.all_eq_true.1 hdigits.2 c hc
  · cases h

theorem inDecimal_of_readNatural? {digits : Text} {n : Nat} (h : readNatural? digits = some n)
    {c : Char} (hc : c ∈ digits) : InDecimal c :=
  Or.inl (isDigit_of_readNatural? h hc)

theorem mem_sign_or_mem_splitSign {text : Text} {c : Char} (hc : c ∈ text) :
    c = '-' ∨ c = '+' ∨ c ∈ (splitSign text).2 := by
  unfold splitSign
  split
  · exact (List.mem_cons.1 hc).imp_right Or.inr
  · exact Or.inr (List.mem_cons.1 hc)
  · exact Or.inr (Or.inr hc)

theorem inDecimal_of_readExponent? {text : Text} {exponent : Int}
    (h : readExponent? text = some exponent) {c : Char} (hc : c ∈ text) : InDecimal c := by
  cases text with
  | nil => cases hc
  | cons letter rest =>
    rw [readExponent?] at h
    by_cases hletter : letter = 'e' ∨ letter = 'E'
    · rw [if_pos hletter] at h
      obtain ⟨n, hn, -⟩ := Option.map_eq_some_iff.1 h
      rcases List.mem_cons.1 hc with rfl | hc
      · rcases hletter with rfl | rfl <;> exact Or.inr (by decide)
      · rcases mem_sign_or_mem_splitSign hc with rfl | rfl | hc
        · exact Or.inr (by decide)
        · exact Or.inr (by decide)
        · exact inDecimal_of_readNatural? hn hc
    · rw [if_neg hletter] at h
      cases h

theorem isDigit_or_mem_dropWhile {text : Text} {c : Char} (hc : c ∈ text) :
    c.isDigit = true ∨ c ∈ text.dropWhile Char.isDigit := by
  rw [← List.takeWhile_append_dropWhile (p := Char.isDigit) (l := text), List.mem_append] at hc
  exact hc.imp_left fun hc => List.mem_takeWhile_imp hc

theorem inDecimal_of_readDecimal? {negative : Bool} {text : Text} {x : Float}
    (h : readDecimal? negative text = some x) {c : Char} (hc : c ∈ text) : InDecimal c := by
  rcases isDigit_or_mem_dropWhile hc with hdigit | hc
  · exact Or.inl hdigit
  · unfold readDecimal? at h
    dsimp only at h
    split at h
    · rename_i behind hbehind
      obtain ⟨exponent, hexponent, -⟩ :=
        Option.map_eq_some_iff.1 (Option.ite_none_left_eq_some.1 h).2
      rw [hbehind] at hc
      rcases List.mem_cons.1 hc with rfl | hc
      · exact Or.inr (by decide)
      · rcases isDigit_or_mem_dropWhile hc with hdigit | hc
        · exact Or.inl hdigit
        · exact inDecimal_of_readExponent? hexponent hc
    · obtain ⟨exponent, hexponent, -⟩ :=
        Option.map_eq_some_iff.1 (Option.ite_none_left_eq_some.1 h).2
      exact inDecimal_of_readExponent? hexponent hc

theorem isBlank_eq_false_of_inDecimal {c : Char} (h : InDecimal c) : isBlank c = false :=
  Text.isBlank_eq_false_of (p := fun c => c.isDigit = true ∨ c ∈ ".eE+-".toList) (by decide) h

theorem isBlank_eq_false_of_map_toLower {text : Text} {word : String}
    (h : String.ofList (text.map Char.toLower) = word)
    (hword : (Text.blankChars.all fun c => !word.toList.contains c.toLower) = true) {c : Char}
    (hc : c ∈ text) : isBlank c = false := by
  rw [Bool.eq_false_iff]
  intro hblank
  have hnone := List.all_eq_true.1 hword c (Text.mem_blankChars hblank)
  rw [← h, String.toList_ofList, Bool.not_eq_true', ← Bool.not_eq_true, List.contains_iff_mem]
    at hnone
  exact hnone (List.mem_map_of_mem hc)

/-- A text that is read as a float has no blanks. -/
theorem isBlank_eq_false_of_readFloat? {text : Text} {x : Float} (h : readFloat? text = some x)
    {c : Char} (hc : c ∈ text) : isBlank c = false := by
  rcases mem_sign_or_mem_splitSign hc with rfl | rfl | hc
  · rfl
  · rfl
  · unfold readFloat? at h
    dsimp only at h
    split at h
    · rename_i hword
      rcases hword with hword | hword
      · exact isBlank_eq_false_of_map_toLower hword (by decide) hc
      · exact isBlank_eq_false_of_map_toLower hword (by decide) hc
    · split at h
      · rename_i hword
        exact isBlank_eq_false_of_map_toLower hword (by decide) hc
      · exact isBlank_eq_false_of_inDecimal (inDecimal_of_readDecimal? h hc)

theorem ne_nil_of_readFloat? {text : Text} {x : Float} (h : readFloat? text = some x) :
    text ≠ [] := by
  rintro rfl
  cases h

theorem trim_of_readFloat? {text : Text} {x : Float} (h : readFloat? text = some x) :
    Text.trim text = text := by
  refine (Text.Bare.of_any_eq_false (ne_nil_of_readFloat? h) (List.any_eq_false.2 ?_)).trim_eq
  exact fun c hc => Bool.eq_false_iff.1 (isBlank_eq_false_of_readFloat? h hc)

end DryRun
