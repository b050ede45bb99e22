import Mathlib.Data.Bool.AllAny
import DryRun.Memory
import DryRun.Proofs.Number.Digits
import DryRun.Proofs.Text.Search

/-!
# Sizes as they are written

A size is written as a numeral or as a power of two numerals, and it is taken for the number that
this is, up to the cap (`size_append`). Powers of zero and one are the exception: they are small
whatever the exponent, and yet they are taken for the cap where it has no place in 32 bits.

1. Arithmetic up to the cap.
2. Numerals, powers, and how they are read.
3. Sizes in groups of three digits.
-/

namespace DryRun

open Unicode

namespace Size

/-! ## Up to the cap -/

theorem exponentCap_lt_cap : exponentCap < cap := by decide

theorem ofNat_of_le {n : Nat} (h : n ≤ cap) : ofNat n = n := Nat.min_eq_left h

theorem ofNat_of_cap_le {n : Nat} (h : cap ≤ n) : ofNat n = cap := Nat.min_eq_right h

/-- A limit is reached by a number just if it is reached by the size that the number is taken
for. -/
theorem le_ofNat_iff {limit n : Nat} (h : limit ≤ cap) : limit ≤ ofNat n ↔ limit ≤ n := by
  unfold ofNat
  rw [Nat.le_min]
  exact and_iff_left h

/-- In a product a number may be taken for its size. -/
theorem times_ofNat (a b : Nat) : times a (ofNat b) = ofNat (a * b) := by
  unfold times
  rcases Nat.le_total b cap with hb | hb
  · rw [ofNat_of_le hb]
  · rw [ofNat_of_cap_le hb]
    rcases Nat.eq_zero_or_pos a with rfl | ha
    · rw [Nat.zero_mul, Nat.zero_mul]
    · have hcap : cap ≤ a * cap := Nat.le_mul_of_pos_left cap ha
      rw [ofNat_of_cap_le hcap, ofNat_of_cap_le (hcap.trans (Nat.mul_le_mul_left a hb))]

theorem cap_le_pow {base exponent : Nat} (hbase : 2 ≤ base) (hexponent : 128 ≤ exponent) :
    cap ≤ base ^ exponent :=
  calc cap ≤ 2 ^ 128 := by decide
    _ ≤ 2 ^ exponent := Nat.pow_le_pow_right (by decide) hexponent
    _ ≤ base ^ exponent := Nat.pow_le_pow_left hbase exponent

/-- A power of which the exponent has a place in 32 bits is taken for its size. -/
theorem power_ofNat_of_le (base : Nat) {exponent : Nat} (h : exponent ≤ exponentCap) :
    power (ofNat base) (ofNat exponent) = ofNat (base ^ exponent) := by
  have hcap : exponent ≤ cap := h.trans exponentCap_lt_cap.le
  rw [ofNat_of_le hcap, power, if_neg (Nat.not_lt.2 h)]
  rcases Nat.le_total base cap with hbase | hbase
  · rw [ofNat_of_le hbase]
    split
    · rename_i hlarge
      rw [ofNat_of_cap_le (cap_le_pow hlarge.1 hlarge.2)]
    · rfl
  · have htwo : 2 ≤ cap := by decide
    rw [ofNat_of_cap_le hbase]
    split
    · rename_i hlarge
      rw [ofNat_of_cap_le (cap_le_pow (htwo.trans hbase) hlarge.2)]
    · -- a base beyond the cap keeps its power beyond it, but for the exponent zero
      show ofNat (cap ^ exponent) = _
      rcases Nat.eq_zero_or_pos exponent with rfl | hpos
      · rw [Nat.pow_zero, Nat.pow_zero]
      · have hself : cap ≤ cap ^ exponent := Nat.le_self_pow hpos.ne' cap
        rw [ofNat_of_cap_le hself,
          ofNat_of_cap_le (hself.trans (Nat.pow_le_pow_left hbase exponent))]

/-- A power of which the exponent has none is taken for the cap. -/
theorem power_ofNat_of_lt (base : Nat) {exponent : Nat} (h : exponentCap < exponent) :
    power (ofNat base) (ofNat exponent) = cap := by
  rw [power, if_pos]
  unfold ofNat
  exact Nat.lt_min.2 ⟨h, exponentCap_lt_cap⟩

/-! ## Numerals -/

/-- A numeral: a digit, and digits and underscores behind it. -/
structure IsNumeral (numeral : Text) : Prop where
  head : ∃ first others, numeral = first :: others ∧ first.isDigit = true
  inside : ∀ c ∈ numeral, c.isDigit = true ∨ c = '_'

instance (numeral : Text) : Decidable (IsNumeral numeral) :=
  decidable_of_iff
    (numeral.head?.any Char.isDigit = true ∧
      (numeral.all fun c => c.isDigit = true ∨ c = '_') = true) <| by
    rw [List.all_iff_forall_prop]
    constructor
    · rintro ⟨hhead, hinside⟩
      cases numeral with
      | nil => cases hhead
      | cons first others => exact ⟨⟨first, others, rfl, hhead⟩, hinside⟩
    · rintro ⟨⟨first, others, rfl, hfirst⟩, hinside⟩
      exact ⟨hfirst, hinside⟩

/-- The number that a numeral stands for, underscores or not. -/
def numeralValue (numeral : Text) : Nat := digitsValue (numeral.filter (· != '_'))

theorem digitsValue?_eq {digits : Text} (h : ∀ c ∈ digits, c.isDigit = true) :
    digitsValue? digits = some (digitsValue digits) := by
  have hfold : ∀ start : Nat,
      digits.foldlM (fun value c =>
          if c.isDigit then some (value * 10 + (c.toNat - 48)) else none) start =
        some (digits.foldl (fun value c => value * 10 + (c.toNat - '0'.toNat)) start) := by
    induction digits with
    | nil => exact fun _ => rfl
    | cons c rest ih =>
      rw [List.forall_mem_cons] at h
      intro start
      rw [List.foldlM_cons, if_pos h.1]
      exact ih h.2 _
  exact hfold 0

/-- The characters that a numeral goes on with. -/
def inNumeral (c : Char) : Bool := isDigit c || c == '_'

/-- The characters that a size goes on with. -/
def inSize (c : Char) : Bool := inNumeral c || c == '*' || isBlank c

theorem inNumeral_of_isBlank {c : Char} (h : isBlank c = true) : inNumeral c = false :=
  Text.forall_isBlank (p := fun c => inNumeral c = false) (by decide +kernel) h

section Behind

variable {rest : Text} (hrest : rest.head?.any inSize = false)

include hrest

theorem any_inNumeral_of_any_inSize : rest.head?.any inNumeral = false := by
  cases rest with
  | nil => rfl
  | cons c rest =>
    have hc : inSize c = false := hrest
    simp only [inSize, Bool.or_eq_false_iff] at hc
    exact hc.1.1

/-- What does not go on with a size has no exponent for it. -/
theorem exponent_eq_none : Allocation.exponent rest = none := by
  cases rest with
  | nil => rfl
  | cons c rest =>
    have hc : inSize c = false := hrest
    simp only [inSize, Bool.or_eq_false_iff] at hc
    have hblanks : Pattern.blanks (c :: rest) = some ((), c :: rest) :=
      Pattern.blanks_of_any_head? hc.2
    have hword : Pattern.word "**" (c :: rest) = none := by
      refine Pattern.word_eq_none _ fun behind heq => ?_
      have hstar : c = '*' := (List.cons.inj heq).1
      exact beq_eq_false_iff_ne.1 hc.1.2 hstar
    rw [Allocation.exponent, Pattern.bind_of_some hblanks, Pattern.bind_of_none hword]

end Behind

namespace IsNumeral

variable {numeral : Text} (h : IsNumeral numeral)

include h

theorem ofNumeral_eq : ofNumeral numeral = ofNat (numeralValue numeral) := by
  have hdigits : ∀ c ∈ numeral.filter (· != '_'), c.isDigit = true := by
    intro c hc
    obtain ⟨hmem, hne⟩ := List.mem_filter.1 hc
    exact (h.inside c hmem).resolve_right (bne_iff_ne.1 hne)
  rw [ofNumeral, digitsValue?_eq hdigits]
  rfl

theorem inNumeral_of_mem {c : Char} (hc : c ∈ numeral) : inNumeral c = true := by
  rcases h.inside c hc with hdigit | rfl
  · rw [inNumeral, isDigit_of_isDigit hdigit, Bool.true_or]
  · decide

theorem isBlank_eq_false {c : Char} (hc : c ∈ numeral) : isBlank c = false := by
  rcases h.inside c hc with hdigit | rfl
  · exact forall_isDigit (p := fun c => isBlank c = false) (by decide) hdigit
  · decide

theorem bare : Text.Bare numeral := by
  obtain ⟨first, others, rfl, hfirst⟩ := h.head
  refine .of_any_eq_false (List.cons_ne_nil _ _) (List.any_eq_false.2 fun c hc => ?_)
  rw [h.isBlank_eq_false hc]
  exact Bool.false_ne_true

theorem numeral_append {rest : Text} (hrest : rest.head?.any inNumeral = false) :
    Allocation.numeral (numeral ++ rest) = some (numeral, rest) := by
  obtain ⟨first, others, rfl, hfirst⟩ := h.head
  have hchar : Pattern.charOf isDigit (first :: others ++ rest) = some (first, others ++ rest) :=
    if_pos (isDigit_of_isDigit hfirst)
  have hothers : Pattern.run inNumeral (others ++ rest) = some (others, rest) :=
    Pattern.run_of_append (fun c hc => h.inNumeral_of_mem (List.mem_cons_of_mem first hc)) hrest
  rw [Allocation.numeral, Pattern.bind_of_some hchar]
  exact Pattern.bind_of_some hothers _

end IsNumeral

/-! ## Powers -/

/-- A size as it is written: a numeral, or a numeral to the power of another, with blanks before and
behind the sign. -/
inductive Written where
  | numeral (digits : Text)
  | power (base before behind exponent : Text)

namespace Written

/-- What is written. -/
def text : Written → Text
  | numeral digits => digits
  | power base before behind exponent =>
    base ++ (before ++ ('*' :: '*' :: (behind ++ exponent)))

/-- The number that is written, however large. -/
def value : Written → Nat
  | numeral digits => numeralValue digits
  | power base _ _ exponent => numeralValue base ^ numeralValue exponent

/-- Whether what is written for numerals are numerals, and for blanks, blanks. -/
inductive Regular : Written → Prop
  | numeral {digits : Text} (h : IsNumeral digits) : Regular (.numeral digits)
  | power {base before behind exponent : Text} (hbase : IsNumeral base)
      (hbefore : Text.isBlankText before = true) (hbehind : Text.isBlankText behind = true)
      (hexponent : IsNumeral exponent) : Regular (.power base before behind exponent)

/-- Whether the size is a power of zero or one of which the exponent has no place in 32 bits. -/
def Overruns : Written → Prop
  | numeral _ => False
  | power base _ _ exponent => numeralValue base ≤ 1 ∧ exponentCap < numeralValue exponent

instance : DecidablePred Overruns
  | numeral _ => inferInstanceAs (Decidable False)
  | power .. => inferInstanceAs (Decidable (_ ∧ _))

/-- The size that the written one is taken for. -/
def estimate (size : Written) : Size := if size.Overruns then cap else min size.value cap

theorem estimate_of_not_overruns {size : Written} (h : ¬ size.Overruns) :
    size.estimate = min size.value cap := if_neg h

theorem estimate_numeral (digits : Text) :
    (numeral digits).estimate = ofNat (numeralValue digits) := by
  have hover : ¬ (numeral digits).Overruns := id
  exact estimate_of_not_overruns hover

theorem estimate_of_overruns {size : Written} (h : size.Overruns) : size.estimate = cap := if_pos h

theorem value_le_one_of_overruns {size : Written} (h : size.Overruns) : size.value ≤ 1 := by
  cases size with
  | numeral digits => exact h.elim
  | power base before behind exponent =>
    calc numeralValue base ^ numeralValue exponent
        ≤ 1 ^ numeralValue exponent := Nat.pow_le_pow_left h.1 _
      _ = 1 := Nat.one_pow _

/-- A power of sizes is what the written power is taken for. -/
theorem power_eq_estimate (base before behind exponent : Text) :
    Size.power (ofNat (numeralValue base)) (ofNat (numeralValue exponent)) =
      (power base before behind exponent).estimate := by
  by_cases hover : (power base before behind exponent).Overruns
  · rw [estimate_of_overruns hover]
    exact power_ofNat_of_lt _ hover.2
  · rw [estimate_of_not_overruns hover]
    rcases Nat.lt_or_ge exponentCap (numeralValue exponent) with hlarge | hsmall
    · have hbase : 2 ≤ numeralValue base := by
        by_contra hlt
        exact hover ⟨by omega, hlarge⟩
      have hexponent : 128 ≤ numeralValue exponent := le_trans (by decide) hlarge.le
      rw [power_ofNat_of_lt _ hlarge]
      exact (Nat.min_eq_right (cap_le_pow hbase hexponent)).symm
    · exact power_ofNat_of_le _ hsmall

namespace Regular

variable {size : Written} (h : size.Regular)

include h

theorem inSize_of_mem {c : Char} (hc : c ∈ size.text) : inSize c = true := by
  unfold inSize
  cases h with
  | numeral hdigits => rw [hdigits.inNumeral_of_mem hc, Bool.true_or, Bool.true_or]
  | power hbase hbefore hbehind hexponent =>
    simp only [text, List.mem_append, List.mem_cons] at hc
    rcases hc with hc | hc | rfl | rfl | hc | hc
    · rw [hbase.inNumeral_of_mem hc, Bool.true_or, Bool.true_or]
    · rw [Text.isBlankText_iff.1 hbefore c hc, Bool.or_true]
    · decide
    · decide
    · rw [Text.isBlankText_iff.1 hbehind c hc, Bool.or_true]
    · rw [hexponent.inNumeral_of_mem hc, Bool.true_or, Bool.true_or]

theorem not_mem {c : Char} (hc : inSize c = false) : c ∉ size.text := by
  intro hmem
  rw [h.inSize_of_mem hmem] at hc
  cases hc

theorem bare : Text.Bare size.text := by
  cases h with
  | numeral hdigits => exact hdigits.bare
  | @power base before behind exponent hbase hbefore hbehind hexponent =>
    have hjoined := hbase.bare.append (before ++ ('*' :: '*' :: behind)) hexponent.bare
    rw [List.append_assoc] at hjoined
    exact hjoined

/-- A written size is read in front of anything that does not go on with it. -/
theorem size_append {rest : Text} (hrest : rest.head?.any inSize = false) :
    Allocation.size (size.text ++ rest) = some (size.estimate, rest) := by
  cases h with
  | @numeral digits hdigits =>
    have hnumeral := hdigits.numeral_append (any_inNumeral_of_any_inSize hrest)
    have hexponent := Pattern.optional_of_none (exponent_eq_none hrest)
    rw [Allocation.size, text, Pattern.bind_of_some hnumeral, Pattern.bind_of_some hexponent,
      estimate_numeral, ← hdigits.ofNumeral_eq]
    rfl
  | @power base before behind exponent hbase hbefore hbehind hexponent =>
    -- what follows the sign, and what follows the base
    let raised := behind ++ (exponent ++ rest)
    let others := before ++ ('*' :: '*' :: raised)
    have htext : (Written.power base before behind exponent).text ++ rest = base ++ others := by
      simp [text, others, raised]
    have hothers : others.head?.any inNumeral = false := by
      cases before with
      | nil => rfl
      | cons c before =>
        exact inNumeral_of_isBlank (Text.isBlankText_iff.1 hbefore c List.mem_cons_self)
    have hraised : Allocation.exponent others = some (exponent, rest) := by
      have hword : Pattern.word "**" ('*' :: '*' :: raised) = some ((), raised) := rfl
      rw [Allocation.exponent, Pattern.bind_of_some (Pattern.blanks_of_append hbefore rfl),
        Pattern.bind_of_some hword, Pattern.bind_of_some (Pattern.blanks_of_append hbehind
          (hexponent.bare.any_head?_append rest))]
      exact hexponent.numeral_append (any_inNumeral_of_any_inSize hrest)
    rw [htext, Allocation.size, Pattern.bind_of_some (hbase.numeral_append hothers),
      Pattern.bind_of_some (Pattern.optional_of_some hraised), ← power_eq_estimate,
      ← hbase.ofNumeral_eq, ← hexponent.ofNumeral_eq]
    rfl

end Regular

end Written

/-! ## Groups of digits -/

/-- Whether a text has the digits of a number, with a comma before every third of them from the
end. -/
structure InThousands (n : Nat) (text : Text) : Prop where
  digits : text.filter (· != ',') = decimalDigits n
  groups : ∃ first others, Text.pieces (· == ',') text = first :: others ∧
    0 < first.length ∧ first.length ≤ 3 ∧ ∀ group ∈ others, group.length = 3

/-- What is shown for a digit at a place of a numeral of the given length. -/
def shownDigit (length : Nat) (entry : Char × Nat) : Text :=
  if entry.2 > 0 && (length - entry.2) % 3 == 0 then [',', entry.1] else [entry.1]

theorem toList_grouped (n : Nat) :
    (grouped n).toList =
      ((decimalDigits n).zipIdx.map (shownDigit (decimalDigits n).length)).flatten := by
  have hdigits : (toString n).toList = decimalDigits n := by
    rw [Nat.toString_eq_repr, Nat.toList_repr, decimalDigits]
  unfold grouped
  dsimp only
  rw [hdigits, String.toList_ofList]
  rfl

theorem filter_shown {digits : Text} (h : ∀ c ∈ digits, c.isDigit = true) (length place : Nat) :
    (((digits.zipIdx place).map (shownDigit length)).flatten).filter (· != ',') = digits := by
  induction digits generalizing place with
  | nil => rfl
  | cons c rest ih =>
    rw [List.forall_mem_cons] at h
    have hc : (c != ',') = true :=
      forall_isDigit (p := fun c => (c != ',') = true) (by decide) h.1
    have hshown : (shownDigit length (c, place)).filter (· != ',') = [c] := by
      unfold shownDigit
      split <;> simp [hc]
    rw [List.zipIdx_cons, List.map_cons, List.flatten_cons, List.filter_append, hshown,
      ih h.2 (place + 1)]
    rfl

/-- Behind the first digit a group goes on to where the digits left are a multiple of three, and
further groups have three. -/
theorem pieces_shown {digits : Text} (h : ∀ c ∈ digits, c.isDigit = true) {place : Nat}
    (hplace : 0 < place) :
    ∃ first others,
      Text.pieces (· == ',')
          ((digits.zipIdx place).map (shownDigit (place + digits.length))).flatten =
        first :: others ∧
      first.length = digits.length % 3 ∧ ∀ group ∈ others, group.length = 3 := by
  induction digits generalizing place with
  | nil => exact ⟨[], [], rfl, rfl, fun _ hgroup => by cases hgroup⟩
  | cons c rest ih =>
    rw [List.forall_mem_cons] at h
    obtain ⟨first, others, hpieces, hfirst, hothers⟩ := ih h.2 (Nat.succ_pos place)
    have hc : (c == ',') = false :=
      forall_isDigit (p := fun c => (c == ',') = false) (by decide) h.1
    have hlength : place + 1 + rest.length = place + (rest.length + 1) := by omega
    have hleft : place + (rest.length + 1) - place = rest.length + 1 := by omega
    rw [hlength] at hpieces
    rw [List.length_cons, List.zipIdx_cons, List.map_cons, List.flatten_cons, shownDigit, hleft]
    by_cases hthird : (rest.length + 1) % 3 = 0
    · refine ⟨[], (c :: first) :: others, ?_, hthird.symm, ?_⟩
      · simp [hplace, hthird, Text.pieces, hc, hpieces, Text.growFirst]
      · rw [List.forall_mem_cons, List.length_cons]
        exact ⟨by omega, hothers⟩
    · refine ⟨c :: first, others, ?_, ?_, hothers⟩
      · simp [hthird, Text.pieces, hc, hpieces, Text.growFirst]
      · rw [List.length_cons]
        omega

theorem grouped_inThousands (n : Nat) : InThousands n (grouped n).toList := by
  have hall : ∀ c ∈ decimalDigits n, c.isDigit = true := fun _ => isDigit_of_mem_decimalDigits
  rw [toList_grouped]
  refine ⟨filter_shown hall _ 0, ?_⟩
  obtain ⟨c, rest, hdigits⟩ := List.exists_cons_of_ne_nil (decimalDigits_ne_nil n)
  rw [hdigits, List.forall_mem_cons] at hall
  obtain ⟨first, others, hpieces, hfirst, hothers⟩ := pieces_shown hall.2 Nat.one_pos
  have hc : (c == ',') = false :=
    forall_isDigit (p := fun c => (c == ',') = false) (by decide) hall.1
  refine ⟨c :: first, others, ?_, Nat.succ_pos _, ?_, hothers⟩
  · rw [hdigits, List.length_cons, Nat.add_comm, List.zipIdx_cons, List.map_cons,
      List.flatten_cons]
    simp [shownDigit, Text.pieces, hc, hpieces, Text.growFirst]
  · rw [List.length_cons]
    omega

example : grouped 1234567 = "1,234,567" := by decide

end Size

end DryRun
